import CodeOutline.Json.Printer
import CodeOutline.Json.Reader
import Mathlib.Data.List.Forall2
import Mathlib.Data.List.TakeDrop

set_option autoImplicit false

namespace CodeOutline

namespace Text

theorem value_digit {n : Nat} (small : n < 10) : (digit n).toNat - 48 = n := by
  revert n
  decide

theorem valueOf_digits (n : Nat) : valueOf (digits n) = n := by
  fun_induction digits n with
  | case1 n small => simpa [valueOf] using value_digit small
  | case2 n large ih =>
      have last := value_digit (Nat.mod_lt n (by decide : 0 < 10))
      rw [valueOf] at ih ⊢
      rw [List.foldl_append, ih]
      simp only [List.foldl_cons, List.foldl_nil, last]
      omega

theorem digits_head (n : Nat) :
    ∃ first others, digits n = first :: others ∧ first.isDigit ∧ (first = '0' → others = []) := by
  fun_induction digits n with
  | case1 n small => exact ⟨digit n, [], rfl, isDigit_digit small, fun _ => rfl⟩
  | case2 n large ih =>
      obtain ⟨first, others, same, isDigit, lone⟩ := ih
      refine ⟨first, others ++ [digit (n % 10)], by rw [same]; rfl, isDigit, fun zero => ?_⟩
      -- A leading zero would be all of the front part, which is at least one.
      have value := valueOf_digits (n / 10)
      rw [same, lone zero, zero] at value
      have positive : 0 < n / 10 := by omega
      exact absurd value (Nat.ne_of_lt positive)

end Text

namespace Json

inductive Natural : Json → Prop where
  | null : Natural .null
  | bool (value : Bool) : Natural (.bool value)
  | number (n : Nat) : Natural (.ofNat n)
  | str (value : String) : Natural (.str value)
  | arr {items : List Json} (each : ∀ item ∈ items, Natural item) : Natural (.arr items)
  | obj {entries : List (String × Json)} (each : ∀ entry ∈ entries, Natural entry.2) : Natural (.obj entries)

section Texts

def Gap (text : List Char) : Prop :=
  ∀ c ∈ text, c = ' ' ∨ c = '\t' ∨ c = '\n' ∨ c = '\r'

def Digits (text : List Char) : Prop :=
  text ≠ [] ∧ ∀ c ∈ text, c.isDigit

def Number (text : List Char) : Prop :=
  ∃ sign whole fraction exponent, text = sign ++ whole ++ fraction ++ exponent ∧
    (sign = [] ∨ sign = ['-']) ∧
    (whole = ['0'] ∨ Digits whole ∧ whole.head? ≠ some '0') ∧
    (fraction = [] ∨ ∃ digits, Digits digits ∧ fraction = '.' :: digits) ∧
    (exponent = [] ∨ ∃ mark sign digits, (mark = 'e' ∨ mark = 'E') ∧ (sign = [] ∨ sign = ['+'] ∨ sign = ['-']) ∧
      Digits digits ∧ exponent = mark :: sign ++ digits)

def letters : List (Char × Char) :=
  [('\x22', '\x22'), ('\\', '\\'), ('/', '/'), ('\x08', 'b'), ('\x0c', 'f'), ('\n', 'n'), ('\r', 'r'), ('\t', 't')]

-- A character of a string stands for itself or is escaped; those below the space and the two that a string could
-- not hold have to be.
inductive SpellsChar : Char → List Char → Prop where
  | plain {c : Char} (shown : 32 ≤ c.toNat) (noQuote : c ≠ '\x22') (noBackslash : c ≠ '\\') : SpellsChar c [c]
  | letter {c letter : Char} (listed : (c, letter) ∈ letters) : SpellsChar c ['\\', letter]
  | code {c x y z w : Char} (value : hexUnit? x y z w = some c.toNat) : SpellsChar c ['\\', 'u', x, y, z, w]

mutual
inductive Spells : Json → List Char → Prop where
  | null : Spells .null "null".toList
  | yes : Spells (.bool true) "true".toList
  | no : Spells (.bool false) "false".toList
  | number {literal : String} (number : Number literal.toList) : Spells (.number literal) literal.toList
  | str {value : String} {parts : List (List Char)} (each : List.Forall₂ SpellsChar value.toList parts) :
      Spells (.str value) ('\x22' :: parts.flatten ++ ['\x22'])
  | noItems {gap : List Char} (blank : Gap gap) : Spells (.arr []) ('[' :: gap ++ [']'])
  | arr {items : List Json} {body : List Char} (inside : SpellsItems items body) :
      Spells (.arr items) ('[' :: body ++ [']'])
  | noEntries {gap : List Char} (blank : Gap gap) : Spells (.obj []) ('\x7b' :: gap ++ ['\x7d'])
  | obj {entries : List (String × Json)} {body : List Char} (inside : SpellsEntries entries body) :
      Spells (.obj entries) ('\x7b' :: body ++ ['\x7d'])
inductive SpellsItems : List Json → List Char → Prop where
  | last {item : Json} {before text after : List Char} (lead : Gap before) (spells : Spells item text)
      (trail : Gap after) : SpellsItems [item] (before ++ text ++ after)
  | more {item : Json} {items : List Json} {before text after body : List Char} (lead : Gap before)
      (spells : Spells item text) (trail : Gap after) (rest : SpellsItems items body) :
      SpellsItems (item :: items) (before ++ text ++ after ++ ',' :: body)
inductive SpellsEntries : List (String × Json) → List Char → Prop where
  | last {key : String} {value : Json} {before name between colon text after : List Char} (lead : Gap before)
      (spellsKey : Spells (.str key) name) (gap : Gap between) (next : Gap colon) (spells : Spells value text)
      (trail : Gap after) :
      SpellsEntries [(key, value)] (before ++ name ++ between ++ ':' :: (colon ++ text ++ after))
  | more {key : String} {value : Json} {entries : List (String × Json)}
      {before name between colon text after body : List Char} (lead : Gap before)
      (spellsKey : Spells (.str key) name) (gap : Gap between) (next : Gap colon) (spells : Spells value text)
      (trail : Gap after) (rest : SpellsEntries entries body) :
      SpellsEntries ((key, value) :: entries) (before ++ name ++ between ++ ':' :: (colon ++ text ++ after) ++ ',' :: body)
end

def IsText (json : Json) (text : String) : Prop :=
  ∃ before body after, text.toList = before ++ body ++ after ∧ Gap before ∧ Spells json body ∧ Gap after

theorem gap_nil : Gap [] :=
  List.forall_mem_nil _

theorem gap_space : Gap [' '] :=
  List.forall_mem_singleton.mpr (.inl rfl)

theorem gap_newLine (level : Nat) : Gap (newLine level) := by
  intro c member
  rcases List.mem_cons.mp member with rfl | space
  · exact .inr (.inr (.inl rfl))
  · exact .inl (List.eq_of_mem_replicate space)

end Texts

theorem number_digits (n : Nat) : Number (Text.digits n) := by
  refine ⟨[], Text.digits n, [], [], by simp, .inl rfl, ?_, .inl rfl, .inl rfl⟩
  obtain ⟨first, others, same, _, lone⟩ := Text.digits_head n
  by_cases zero : first = '0'
  · rw [same, lone zero, zero]
    exact .inl rfl
  · refine .inr ⟨⟨by simp [same], fun _ => Text.isDigit_of_mem_digits⟩, ?_⟩
    rw [same]
    exact fun begins => zero (Option.some.inj begins)

theorem hexUnit?_control {n : Nat} (control : n < 32) :
    hexUnit? '0' '0' (hexDigit (n / 16)) (hexDigit (n % 16)) = some n := by
  revert n
  decide

theorem escape_cases (c : Char) :
    (∃ letter, (c, letter) ∈ letters ∧ escape c = ['\\', letter]) ∨
    (c.toNat < 32 ∧ escape c = ['\\', 'u', '0', '0', hexDigit (c.toNat / 16), hexDigit (c.toNat % 16)]) ∨
    (32 ≤ c.toNat ∧ c ≠ '\x22' ∧ c ≠ '\\' ∧ escape c = [c]) := by
  unfold escape
  split_ifs with quote backslash backspace tab lineFeed formFeed carriageReturn control
  iterate 7
    · subst c
      exact .inl ⟨_, by decide, rfl⟩
  · exact .inr (.inl ⟨control, rfl⟩)
  · exact .inr (.inr ⟨Nat.le_of_not_lt control, quote, backslash, rfl⟩)

theorem spellsChar_escape (c : Char) : SpellsChar c (escape c) := by
  rcases escape_cases c with ⟨letter, listed, same⟩ | ⟨control, same⟩ | ⟨shown, noQuote, noBackslash, same⟩
  · rw [same]
    exact .letter listed
  · rw [same]
    exact .code (hexUnit?_control control)
  · rw [same]
    exact .plain shown noQuote noBackslash

theorem spells_quoted (text : String) : Spells (.str text) (quoted text) := by
  have each : List.Forall₂ SpellsChar text.toList (text.toList.map escape) := by
    rw [List.forall₂_map_right_iff, List.forall₂_same]
    exact fun c _ => spellsChar_escape c
  exact .str each

theorem spellsItems_printed {item : Json} {items : List Json} (level outer : Nat)
    (first : Spells item (printed level item)) (others : ∀ other ∈ items, Spells other (printed level other)) :
    SpellsItems (item :: items)
      (newLine level ++ printed level item ++ printedItems level items ++ newLine outer) := by
  induction items generalizing item with
  | nil =>
      rw [printedItems, List.append_nil]
      exact .last (gap_newLine level) first (gap_newLine outer)
  | cons next items ih =>
      obtain ⟨second, later⟩ := List.forall_mem_cons.mp others
      have rest := SpellsItems.more (gap_newLine level) first gap_nil (ih second later)
      simpa [printedItems] using rest

theorem spellsEntries_printed (key : String) {value : Json} {entries : List (String × Json)} (level outer : Nat)
    (first : Spells value (printed level value)) (others : ∀ other ∈ entries, Spells other.2 (printed level other.2)) :
    SpellsEntries ((key, value) :: entries)
      (newLine level ++ quoted key ++ [':', ' '] ++ printed level value ++ printedEntries level entries ++
        newLine outer) := by
  induction entries generalizing key value with
  | nil =>
      have last := SpellsEntries.last (gap_newLine level) (spells_quoted key) gap_nil gap_space first (gap_newLine outer)
      simpa [printedEntries] using last
  | cons next entries ih =>
      obtain ⟨second, later⟩ := List.forall_mem_cons.mp others
      have rest := SpellsEntries.more (gap_newLine level) (spells_quoted key) gap_nil gap_space first gap_nil
        (ih next.1 second later)
      simpa [printedEntries] using rest

theorem spells_printed {json : Json} (natural : json.Natural) (level : Nat) : Spells json (printed level json) := by
  induction natural generalizing level with
  | null => exact .null
  | bool value =>
      cases value with
      | false => exact .no
      | true => exact .yes
  | number n =>
      have number : Number (Text.numeral n).toList := by
        rw [Text.numeral, String.toList_ofList]
        exact number_digits n
      exact .number number
  | str value => exact spells_quoted value
  | @arr items _ ih =>
      cases items with
      | nil => exact .noItems gap_nil
      | cons item items =>
          obtain ⟨first, others⟩ := List.forall_mem_cons.mp ih
          have inside := spellsItems_printed (level + 1) level (first (level + 1)) fun other member =>
            others other member (level + 1)
          exact .arr inside
  | @obj entries _ ih =>
      cases entries with
      | nil => exact .noEntries gap_nil
      | cons entry entries =>
          obtain ⟨first, others⟩ := List.forall_mem_cons.mp ih
          have inside := spellsEntries_printed entry.1 (level + 1) level (first (level + 1)) fun other member =>
            others other member (level + 1)
          exact .obj inside

theorem isText_print {json : Json} (natural : json.Natural) : json.IsText json.print := by
  refine ⟨[], printed 0 json, [], ?_, gap_nil, spells_printed natural 0, gap_nil⟩
  simp [print]

section Reading

theorem unescape?_of_listed {c letter : Char} (listed : (c, letter) ∈ letters) :
    unescape? letter = some c ∧ letter ≠ 'u' := by
  have all : ∀ pair ∈ letters, unescape? pair.2 = some pair.1 ∧ pair.2 ≠ 'u' := by decide
  exact all (c, letter) listed

theorem stringTail_letter (read rest : List Char) {c letter : Char} (means : unescape? letter = some c)
    (short : letter ≠ 'u') : stringTail read ('\\' :: letter :: rest) = stringTail (c :: read) rest := by
  rw [stringTail]
  · simp only [means]
  · exact fun _ _ _ _ _ same _ => short same

theorem stringTail_control (read rest : List Char) {c : Char} (control : c.toNat < 32) :
    stringTail read ('\\' :: 'u' :: '0' :: '0' :: hexDigit (c.toNat / 16) :: hexDigit (c.toNat % 16) :: rest) =
      stringTail (c :: read) rest := by
  have notLow : isLowSurrogate c.toNat = false := by
    simp only [isLowSurrogate, Bool.and_eq_false_iff, decide_eq_false_iff_not]
    omega
  have notHigh : isHighSurrogate c.toNat = false := by
    simp only [isHighSurrogate, Bool.and_eq_false_iff, decide_eq_false_iff_not]
    omega
  simp [stringTail, hexUnit?_control control, notLow, notHigh, Char.ofNat_toNat]

theorem stringTail_plain (read rest : List Char) {c : Char} (shown : 32 ≤ c.toNat) (noQuote : c ≠ '\x22')
    (noBackslash : c ≠ '\\') : stringTail read (c :: rest) = stringTail (c :: read) rest := by
  have visible : ¬ c.toNat < 32 := Nat.not_lt.mpr shown
  rw [stringTail.eq_def]
  simp [noQuote, noBackslash, visible]

theorem stringTail_escape (read rest : List Char) (c : Char) :
    stringTail read (escape c ++ rest) = stringTail (c :: read) rest := by
  rcases escape_cases c with ⟨letter, listed, same⟩ | ⟨control, same⟩ | ⟨shown, noQuote, noBackslash, same⟩
  · obtain ⟨means, short⟩ := unescape?_of_listed listed
    rw [same]
    exact stringTail_letter read rest means short
  · rw [same]
    exact stringTail_control read rest control
  · rw [same]
    exact stringTail_plain read rest shown noQuote noBackslash

theorem stringTail_quoted (read rest chars : List Char) :
    stringTail read (chars.flatMap escape ++ '\x22' :: rest) = some (String.ofList (read.reverse ++ chars), rest) := by
  induction chars generalizing read with
  | nil => simp [stringTail]
  | cons c chars ih =>
      rw [List.flatMap_cons, List.append_assoc, stringTail_escape, ih]
      simp

theorem quoted_append (text : String) (rest : List Char) :
    quoted text ++ rest = '\x22' :: (text.toList.flatMap escape ++ '\x22' :: rest) := by
  simp [quoted]

def Ends (rest : List Char) : Prop :=
  ∀ c, rest.head? = some c → c = ',' ∨ c = '\n'

theorem Ends.not_digit {rest : List Char} (ends : Ends rest) {c : Char} (head : rest.head? = some c) :
    ¬ c.isDigit := by
  rcases ends c head with rfl | rfl <;> decide

theorem ends_nil : Ends [] :=
  fun _ none => nomatch none

theorem ends_newLine (level : Nat) (rest : List Char) : Ends (newLine level ++ rest) := by
  intro c head
  cases head
  exact .inr rfl

theorem ends_printedItems (level outer : Nat) (items : List Json) (rest : List Char) :
    Ends (printedItems level items ++ (newLine outer ++ rest)) := by
  cases items with
  | nil => exact ends_newLine outer rest
  | cons item items =>
      intro c head
      cases head
      exact .inl rfl

theorem ends_printedEntries (level outer : Nat) (entries : List (String × Json)) (rest : List Char) :
    Ends (printedEntries level entries ++ (newLine outer ++ rest)) := by
  cases entries with
  | nil => exact ends_newLine outer rest
  | cons entry entries =>
      intro c head
      cases head
      exact .inl rfl

theorem digitRun_append {digits rest : List Char} (all : ∀ c ∈ digits, c.isDigit) (ends : Ends rest) :
    digitRun (digits ++ rest) = (digits, rest) := by
  rw [digitRun, List.span_eq_takeWhile_dropWhile, List.takeWhile_append_of_pos all, List.dropWhile_append_of_pos all]
  cases rest with
  | nil => simp
  | cons c rest => simp [ends.not_digit (c := c) rfl]

theorem integerPart?_digits {rest : List Char} (n : Nat) (ends : Ends rest) :
    integerPart? (Text.digits n ++ rest) = some (Text.digits n, rest) := by
  have run := digitRun_append (fun _ => Text.isDigit_of_mem_digits (n := n)) ends
  obtain ⟨first, others, same, _, lone⟩ := Text.digits_head n
  rw [same, List.cons_append] at run ⊢
  by_cases zero : first = '0'
  · rw [lone zero, zero]
    rfl
  · rw [integerPart?]
    · simp only [someDigits?, run]
    · intro rest begins
      exact zero (List.cons.inj begins).1

theorem fraction?_of_ends {rest : List Char} (ends : Ends rest) : fraction? rest = some ([], rest) := by
  cases rest with
  | nil => rfl
  | cons c rest => rcases ends c rfl with rfl | rfl <;> rfl

theorem exponent?_of_ends {rest : List Char} (ends : Ends rest) : exponent? rest = some ([], rest) := by
  cases rest with
  | nil => rfl
  | cons c rest => rcases ends c rfl with rfl | rfl <;> rfl

theorem numeral?_digits {rest : List Char} (n : Nat) (ends : Ends rest) :
    numeral? (Text.digits n ++ rest) = some (Text.numeral n, rest) := by
  have whole := integerPart?_digits n ends
  unfold numeral?
  split
  rename_i sign later same
  split at same
  · rename_i after isMinus
    obtain ⟨first, others, begins, isDigit, _⟩ := Text.digits_head n
    rw [begins] at isMinus
    rw [(List.cons.inj isMinus).1] at isDigit
    exact absurd isDigit (by decide)
  · cases same
    simp [whole, fraction?_of_ends ends, exponent?_of_ends ends, Text.numeral]

theorem isSpace_of_digit {c : Char} (isDigit : c.isDigit) : isSpace c = false := by
  rw [Bool.eq_false_iff]
  intro space
  simp only [isSpace, Bool.or_eq_true, beq_iff_eq] at space
  rcases space with ((rfl | rfl) | rfl) | rfl <;> exact absurd isDigit (by decide)

theorem skipSpace_newLine (level : Nat) (cs : List Char) : skipSpace (newLine level ++ cs) = skipSpace cs := by
  have spaces : ∀ c ∈ newLine level, isSpace c := by
    intro c member
    rcases gap_newLine level c member with rfl | rfl | rfl | rfl <;> rfl
  exact List.dropWhile_append_of_pos spaces

theorem skipSpace_of_shown {c : Char} (shown : isSpace c = false) (cs : List Char) : skipSpace (c :: cs) = c :: cs := by
  rw [skipSpace, List.dropWhile_cons_of_neg (by simp [shown])]

theorem value?_space (fuel : Nat) (cs : List Char) : value? fuel (' ' :: cs) = value? fuel cs := by
  cases fuel <;> rfl

theorem value?_newLine (fuel level : Nat) (cs : List Char) : value? fuel (newLine level ++ cs) = value? fuel cs := by
  cases fuel with
  | zero => rfl
  | succ fuel => rw [value?, value?, skipSpace_newLine]

theorem items?_newLine (fuel level : Nat) (cs : List Char) : items? fuel (newLine level ++ cs) = items? fuel cs := by
  cases fuel with
  | zero => rfl
  | succ fuel => rw [items?, items?, value?_newLine]

theorem entries?_newLine (fuel level : Nat) (cs : List Char) :
    entries? fuel (newLine level ++ cs) = entries? fuel cs := by
  cases fuel with
  | zero => rfl
  | succ fuel => rw [entries?, entries?, skipSpace_newLine]

theorem entries?_quoted (fuel : Nat) (key : String) (rest : List Char) :
    entries? (fuel + 1) (quoted key ++ ':' :: rest) =
      match value? fuel rest with
      | none => none
      | some (value, rest) =>
          match skipSpace rest with
          | '\x7d' :: rest => some ([(key, value)], rest)
          | ',' :: rest => (entries? fuel rest).map fun (entries, rest) => ((key, value) :: entries, rest)
          | _ => none := by
  rw [entries?, quoted_append, skipSpace_of_shown rfl]
  simp only [stringTail_quoted, List.reverse_nil, List.nil_append, String.ofList_toList]
  rw [skipSpace_of_shown rfl]
  rfl

theorem value?_digits {rest : List Char} (fuel n : Nat) (ends : Ends rest) :
    value? (fuel + 1) (Text.digits n ++ rest) = some (.ofNat n, rest) := by
  have reads := numeral?_digits n ends
  obtain ⟨first, others, same, isDigit, _⟩ := Text.digits_head n
  rw [same, List.cons_append] at reads ⊢
  rw [value?, skipSpace_of_shown (isSpace_of_digit isDigit)]
  split
  all_goals
    first
    | rw [reads]
      rfl
    | rename_i begins
      rw [(List.cons.inj begins).1] at isDigit
      exact absurd isDigit (by decide)
    | rename_i none
      cases none

theorem value?_arr (fuel level : Nat) {first : Char} (others : List Char) (shown : isSpace first = false)
    (opens : first ≠ ']') :
    value? (fuel + 1) ('[' :: (newLine level ++ first :: others)) =
      (items? fuel (first :: others)).map fun (items, rest) => (.arr items, rest) := by
  rw [value?, skipSpace_of_shown rfl]
  simp only [skipSpace_newLine, skipSpace_of_shown shown]
  split
  · rename_i same
    exact absurd (List.cons.inj same).1 opens
  · rfl

theorem value?_obj (fuel level : Nat) (key : String) (rest : List Char) :
    value? (fuel + 1) ('\x7b' :: (newLine level ++ (quoted key ++ rest))) =
      (entries? fuel (quoted key ++ rest)).map fun (entries, rest) => (.obj entries, rest) := by
  rw [value?, skipSpace_of_shown rfl]
  simp only [skipSpace_newLine, quoted_append]
  rw [skipSpace_of_shown rfl]
  rfl

-- With fuel for twice its length, what is printed of the value is read up to its end.
def ReadsBack (json : Json) : Prop :=
  ∀ level fuel rest, 2 * (printed level json).length < fuel → Ends rest →
    value? fuel (printed level json ++ rest) = some (json, rest)

theorem readsBack_of_succ {json : Json}
    (reads : ∀ level fuel rest, 2 * (printed level json).length ≤ fuel → Ends rest →
      value? (fuel + 1) (printed level json ++ rest) = some (json, rest)) : json.ReadsBack := by
  intro level fuel rest enough ends
  obtain ⟨fuel, rfl⟩ : ∃ less, fuel = less + 1 := ⟨fuel - 1, by omega⟩
  exact reads level fuel rest (by omega) ends

-- Each item costs one unit of fuel beside its own, which the comma before it makes up for.
theorem items?_printed {item : Json} {items : List Json} (first : item.ReadsBack)
    (others : ∀ other ∈ items, other.ReadsBack) (level outer fuel : Nat) (rest : List Char)
    (enough : 2 * ((printed level item).length + (printedItems level items).length) + 1 < fuel) :
    items? fuel (printed level item ++ (printedItems level items ++ (newLine outer ++ ']' :: rest))) =
      some (item :: items, rest) := by
  obtain ⟨fuel, rfl⟩ : ∃ less, fuel = less + 1 := ⟨fuel - 1, by omega⟩
  have read := first level fuel _ (by omega) (ends_printedItems level outer items (']' :: rest))
  induction items generalizing item fuel with
  | nil =>
      rw [items?, read]
      simp only [printedItems, List.nil_append, skipSpace_newLine]
      rfl
  | cons next items ih =>
      obtain ⟨second, later⟩ := List.forall_mem_cons.mp others
      simp only [printedItems, List.length_cons, List.length_append] at enough
      obtain ⟨fuel, rfl⟩ : ∃ less, fuel = less + 1 := ⟨fuel - 1, by omega⟩
      have reads := ih second later fuel (by omega)
        (second level fuel _ (by omega) (ends_printedItems level outer items (']' :: rest)))
      rw [items?, read]
      simp only [printedItems, List.cons_append, List.append_assoc]
      rw [skipSpace_of_shown rfl]
      simp only [items?_newLine, reads]
      rfl

theorem entries?_printed (key : String) {value : Json} {entries : List (String × Json)} (first : value.ReadsBack)
    (others : ∀ entry ∈ entries, entry.2.ReadsBack) (level outer fuel : Nat) (rest : List Char)
    (enough : 2 * ((printed level value).length + (printedEntries level entries).length) + 1 < fuel) :
    entries? fuel (quoted key ++ ':' :: ' ' :: (printed level value ++
        (printedEntries level entries ++ (newLine outer ++ '\x7d' :: rest)))) =
      some ((key, value) :: entries, rest) := by
  obtain ⟨fuel, rfl⟩ : ∃ less, fuel = less + 1 := ⟨fuel - 1, by omega⟩
  have read := first level fuel _ (by omega) (ends_printedEntries level outer entries ('\x7d' :: rest))
  induction entries generalizing key value fuel with
  | nil =>
      rw [entries?_quoted, value?_space, read]
      simp only [printedEntries, List.nil_append, skipSpace_newLine]
      rfl
  | cons next entries ih =>
      obtain ⟨second, later⟩ := List.forall_mem_cons.mp others
      simp only [printedEntries, List.length_cons, List.length_append] at enough
      obtain ⟨fuel, rfl⟩ : ∃ less, fuel = less + 1 := ⟨fuel - 1, by omega⟩
      have reads := ih next.1 second later fuel (by omega)
        (second level fuel _ (by omega) (ends_printedEntries level outer entries ('\x7d' :: rest)))
      rw [entries?_quoted, value?_space, read]
      simp only [printedEntries, List.cons_append, List.append_assoc, List.nil_append]
      rw [skipSpace_of_shown rfl]
      simp only [entries?_newLine, reads]
      rfl

theorem printed_head {json : Json} (natural : json.Natural) (level : Nat) :
    ∃ first others, printed level json = first :: others ∧ isSpace first = false ∧ first ≠ ']' := by
  cases natural with
  | null => exact ⟨'n', _, rfl, rfl, by decide⟩
  | bool value =>
      cases value with
      | false => exact ⟨'f', _, rfl, rfl, by decide⟩
      | true => exact ⟨'t', _, rfl, rfl, by decide⟩
  | number n =>
      obtain ⟨first, others, same, isDigit, _⟩ := Text.digits_head n
      refine ⟨first, others, ?_, isSpace_of_digit isDigit, ?_⟩
      · rw [ofNat, printed, Text.numeral, String.toList_ofList, same]
      · rintro rfl
        exact absurd isDigit (by decide)
  | str value => exact ⟨'\x22', _, rfl, rfl, by decide⟩
  | @arr items =>
      cases items with
      | nil => exact ⟨'[', _, rfl, rfl, by decide⟩
      | cons item items => exact ⟨'[', _, rfl, rfl, by decide⟩
  | @obj entries =>
      cases entries with
      | nil => exact ⟨'\x7b', _, rfl, rfl, by decide⟩
      | cons entry entries => exact ⟨'\x7b', _, rfl, rfl, by decide⟩

theorem readsBack {json : Json} (natural : json.Natural) : json.ReadsBack := by
  apply readsBack_of_succ
  intro level fuel rest enough ends
  induction natural generalizing level fuel rest with
  | null => rfl
  | bool value => cases value <;> rfl
  | number n =>
      rw [ofNat, printed, Text.numeral, String.toList_ofList]
      exact value?_digits fuel n ends
  | str value =>
      rw [printed, quoted_append, value?, skipSpace_of_shown rfl]
      simp only [stringTail_quoted, List.reverse_nil, List.nil_append, String.ofList_toList, Option.map_some]
  | @arr items each ih =>
      have back : ∀ item ∈ items, item.ReadsBack := fun item member => readsBack_of_succ (ih item member)
      cases items with
      | nil => rfl
      | cons item items =>
          obtain ⟨first, others⟩ := List.forall_mem_cons.mp back
          obtain ⟨c, cs, begins, shown, opens⟩ := printed_head (each item List.mem_cons_self) (level + 1)
          simp only [printed, List.length_cons, List.length_append] at enough
          have inside := items?_printed first others (level + 1) level fuel rest (by omega)
          rw [begins, List.cons_append] at inside
          rw [printed, begins]
          simp only [List.cons_append, List.append_assoc, List.nil_append]
          rw [value?_arr fuel (level + 1) _ shown opens, inside]
          rfl
  | @obj entries each ih =>
      have back : ∀ entry ∈ entries, entry.2.ReadsBack := fun entry member => readsBack_of_succ (ih entry member)
      cases entries with
      | nil => rfl
      | cons entry entries =>
          obtain ⟨first, others⟩ := List.forall_mem_cons.mp back
          simp only [printed, List.length_cons, List.length_append] at enough
          have inside := entries?_printed entry.1 first others (level + 1) level fuel rest (by omega)
          rw [printed]
          simp only [List.cons_append, List.append_assoc, List.nil_append]
          rw [value?_obj, inside]
          rfl

theorem parse?_print {json : Json} (natural : json.Natural) : parse? json.print = some json := by
  have reads := readsBack natural 0 (2 * (printed 0 json).length + 1) [] (by omega) ends_nil
  rw [List.append_nil] at reads
  rw [parse?, print, String.toList_ofList, String.length_ofList, reads]
  rfl

end Reading

end Json

end CodeOutline
