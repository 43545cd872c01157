import CodeOutline.Source
import Mathlib.Data.List.Basic
import Mathlib.Tactic.SplitIfs

set_option autoImplicit false

namespace CodeOutline

namespace Utf8

open String (utf8EncodeChar)

section Characters

def IsTail (b : UInt8) : Prop :=
  0x80 ≤ b.toNat ∧ b.toNat ≤ 0xBF

-- The bytes are the written form of the code `n`, which is too large for a shorter one.
def Forms : List UInt8 → Nat → Prop
  | [a], n => n < 0x80 ∧ n = a.toNat
  | [a, b], n =>
      (0xC0 ≤ a.toNat ∧ a.toNat < 0xE0) ∧ IsTail b ∧ 0x80 ≤ n ∧ n = (a.toNat - 0xC0) * 64 + (b.toNat - 0x80)
  | [a, b, c], n =>
      (0xE0 ≤ a.toNat ∧ a.toNat < 0xF0) ∧ IsTail b ∧ IsTail c ∧ 0x800 ≤ n ∧
        n = ((a.toNat - 0xE0) * 64 + (b.toNat - 0x80)) * 64 + (c.toNat - 0x80)
  | [a, b, c, d], n =>
      (0xF0 ≤ a.toNat ∧ a.toNat < 0xF8) ∧ IsTail b ∧ IsTail c ∧ IsTail d ∧ 0x10000 ≤ n ∧
        n = (((a.toNat - 0xF0) * 64 + (b.toNat - 0x80)) * 64 + (c.toNat - 0x80)) * 64 + (d.toNat - 0x80)
  | _, _ => False

theorem toNat_valid (c : Char) : c.toNat < 0xD800 ∨ 0xDFFF < c.toNat ∧ c.toNat < 0x110000 :=
  c.valid

theorem toNat_ofNat {n : Nat} (valid : n < 0xD800 ∨ 0xDFFF < n ∧ n < 0x110000) : (Char.ofNat n).toNat = n := by
  rw [Char.ofNat, dif_pos valid]
  rfl

theorem forms_encodeChar (c : Char) : Forms (utf8EncodeChar c) c.toNat := by
  have valid := toNat_valid c
  simp only [utf8EncodeChar, Char.toNat_val]
  split
  · simp only [Forms, UInt8.toNat_ofNat']
    omega
  · split
    · simp only [Forms, IsTail, UInt8.toNat_ofNat']
      omega
    · split
      · simp only [Forms, IsTail, UInt8.toNat_ofNat']
        omega
      · simp only [Forms, IsTail, UInt8.toNat_ofNat']
        omega

theorem encodeChar_of_forms {c : Char} {bytes : List UInt8} (forms : Forms bytes c.toNat) :
    utf8EncodeChar c = bytes := by
  have valid := toNat_valid c
  simp only [utf8EncodeChar, Char.toNat_val]
  unfold Forms IsTail at forms
  split at forms
  · rw [if_pos (by omega)]
    simp only [List.cons.injEq, and_true, UInt8.ofNat_eq_iff_mod_eq_toNat]
    omega
  · rw [if_neg (by omega), if_pos (by omega)]
    simp only [List.cons.injEq, and_true, UInt8.ofNat_eq_iff_mod_eq_toNat]
    omega
  · rw [if_neg (by omega), if_neg (by omega), if_pos (by omega)]
    simp only [List.cons.injEq, and_true, UInt8.ofNat_eq_iff_mod_eq_toNat]
    omega
  · rw [if_neg (by omega), if_neg (by omega), if_neg (by omega)]
    simp only [List.cons.injEq, and_true, UInt8.ofNat_eq_iff_mod_eq_toNat]
    omega
  · exact forms.elim

theorem encodeChar_eq_iff {c : Char} {bytes : List UInt8} : utf8EncodeChar c = bytes ↔ Forms bytes c.toNat :=
  ⟨fun is => is ▸ forms_encodeChar c, encodeChar_of_forms⟩

theorem encodeChar_append_inj {c d : Char} {left right : List UInt8}
    (same : utf8EncodeChar c ++ left = utf8EncodeChar d ++ right) : c = d ∧ left = right := by
  have first := ByteArray.utf8DecodeChar?_utf8EncodeChar_append (b := left.toByteArray) (c := c)
  have second := ByteArray.utf8DecodeChar?_utf8EncodeChar_append (b := right.toByteArray) (c := d)
  rw [← List.toByteArray_append, same, List.toByteArray_append, second] at first
  cases first
  exact ⟨rfl, List.append_cancel_left same⟩

end Characters

section Leads

def Completes (p : Unfinished) : List UInt8 → Char → Prop
  | [], _ => False
  | b :: more, c =>
      (p.low ≤ b ∧ b ≤ p.high) ∧
        match p.after with
        | 0 => more = [] ∧ c = Char.ofNat (p.bits * 64 + (b.toNat - 0x80))
        | after + 1 => Completes ⟨after, p.bits * 64 + (b.toNat - 0x80), 0x80, 0xBF⟩ more c

def Lead.Continues : Lead → List UInt8 → Char → Prop
  | .whole d, more, c => more = [] ∧ c = d
  | .opens p, more, c => Completes p more c
  | .invalid, _, _ => False

theorem completes_last {bits : Nat} {low high : UInt8} {more : List UInt8} {c : Char} :
    Completes ⟨0, bits, low, high⟩ more c ↔
      ∃ b, more = [b] ∧ (low ≤ b ∧ b ≤ high) ∧ c = Char.ofNat (bits * 64 + (b.toNat - 0x80)) := by
  cases more with
  | nil => simp [Completes]
  | cons b rest => simp [Completes, and_left_comm, and_assoc]

theorem completes_next {after bits : Nat} {low high : UInt8} {more : List UInt8} {c : Char} :
    Completes ⟨after + 1, bits, low, high⟩ more c ↔
      ∃ b rest, more = b :: rest ∧ (low ≤ b ∧ b ≤ high) ∧
        Completes ⟨after, bits * 64 + (b.toNat - 0x80), 0x80, 0xBF⟩ rest c := by
  cases more with
  | nil => simp [Completes]
  | cons b rest =>
      rw [Completes]
      constructor
      · intro completes
        exact ⟨b, rest, rfl, completes⟩
      · rintro ⟨_, _, same, completes⟩
        cases same
        exact completes

variable {b : UInt8}

theorem lead_of_whole (range : b.toNat < 0x80) : lead b = .whole (Char.ofNat b.toNat) := by
  rw [lead, if_pos (UInt8.lt_iff_toNat_lt.mpr range)]

theorem lead_of_invalid (range : 0x80 ≤ b.toNat ∧ b.toNat < 0xC2 ∨ 0xF4 < b.toNat) : lead b = .invalid := by
  simp only [lead, UInt8.lt_iff_toNat_lt, ← UInt8.toNat_inj, UInt8.reduceToNat]
  split_ifs <;> first | rfl | omega

theorem lead_of_two (range : 0xC2 ≤ b.toNat ∧ b.toNat < 0xE0) :
    lead b = .opens ⟨0, b.toNat - 0xC0, 0x80, 0xBF⟩ := by
  simp only [lead, UInt8.lt_iff_toNat_lt, UInt8.reduceToNat]
  rw [if_neg (by omega), if_neg (by omega), if_pos (by omega)]

-- The narrowed ranges leave out overlong forms and surrogates.
theorem lead_of_three (range : 0xE0 ≤ b.toNat ∧ b.toNat < 0xF0) :
    lead b = .opens ⟨1, b.toNat - 0xE0, if b.toNat = 0xE0 then 0xA0 else 0x80,
      if b.toNat = 0xED then 0x9F else 0xBF⟩ := by
  simp only [lead, UInt8.lt_iff_toNat_lt, ← UInt8.toNat_inj, UInt8.reduceToNat]
  rw [if_neg (by omega), if_neg (by omega), if_neg (by omega)]
  by_cases first : b.toNat = 0xE0
  · simp [first]
  · by_cases surrogate : b.toNat = 0xED
    · simp [surrogate]
    · rw [if_neg first, if_neg surrogate, if_pos range.2, if_neg first, if_neg surrogate]

-- These leave out overlong forms and what lies above U+10FFFF.
theorem lead_of_four (range : 0xF0 ≤ b.toNat ∧ b.toNat ≤ 0xF4) :
    lead b = .opens ⟨2, b.toNat - 0xF0, if b.toNat = 0xF0 then 0x90 else 0x80,
      if b.toNat = 0xF4 then 0x8F else 0xBF⟩ := by
  simp only [lead, UInt8.lt_iff_toNat_lt, ← UInt8.toNat_inj, UInt8.reduceToNat]
  rw [if_neg (by omega), if_neg (by omega), if_neg (by omega), if_neg (by omega), if_neg (by omega), if_neg (by omega)]
  by_cases first : b.toNat = 0xF0
  · simp [first]
  · by_cases last : b.toNat = 0xF4
    · simp [last]
    · rw [if_neg first, if_pos (by omega), if_neg first, if_neg last]

theorem lead_cases (b : UInt8) :
    (b.toNat < 0x80 ∧ lead b = .whole (Char.ofNat b.toNat)) ∨
    lead b = .invalid ∨
    ((0xC2 ≤ b.toNat ∧ b.toNat < 0xE0) ∧ lead b = .opens ⟨0, b.toNat - 0xC0, 0x80, 0xBF⟩) ∨
    ((0xE0 ≤ b.toNat ∧ b.toNat < 0xF0) ∧ lead b = .opens ⟨1, b.toNat - 0xE0,
      if b.toNat = 0xE0 then 0xA0 else 0x80, if b.toNat = 0xED then 0x9F else 0xBF⟩) ∨
    ((0xF0 ≤ b.toNat ∧ b.toNat ≤ 0xF4) ∧ lead b = .opens ⟨2, b.toNat - 0xF0,
      if b.toNat = 0xF0 then 0x90 else 0x80, if b.toNat = 0xF4 then 0x8F else 0xBF⟩) := by
  have ranges : b.toNat < 0x80 ∨ (0x80 ≤ b.toNat ∧ b.toNat < 0xC2 ∨ 0xF4 < b.toNat) ∨
      (0xC2 ≤ b.toNat ∧ b.toNat < 0xE0) ∨ (0xE0 ≤ b.toNat ∧ b.toNat < 0xF0) ∨ (0xF0 ≤ b.toNat ∧ b.toNat ≤ 0xF4) := by
    omega
  rcases ranges with range | range | range | range | range
  · exact .inl ⟨range, lead_of_whole range⟩
  · exact .inr (.inl (lead_of_invalid range))
  · exact .inr (.inr (.inl ⟨range, lead_of_two range⟩))
  · exact .inr (.inr (.inr (.inl ⟨range, lead_of_three range⟩)))
  · exact .inr (.inr (.inr (.inr ⟨range, lead_of_four range⟩)))

theorem forms_of_continues {more : List UInt8} {c : Char} (continues : (lead b).Continues more c) :
    Forms (b :: more) c.toNat := by
  rcases lead_cases b with ⟨range, is⟩ | is | ⟨range, is⟩ | ⟨range, is⟩ | ⟨range, is⟩ <;> rw [is] at continues
  · obtain ⟨rfl, rfl⟩ := continues
    rw [toNat_ofNat (by omega)]
    exact ⟨range, rfl⟩
  · cases continues
  · simp only [Lead.Continues, completes_last, UInt8.le_iff_toNat_le, UInt8.reduceToNat] at continues
    obtain ⟨x, rfl, last, value⟩ := continues
    rw [value, toNat_ofNat (by omega)]
    simp only [Forms, IsTail, and_true]
    omega
  · simp only [Lead.Continues, completes_last, completes_next, UInt8.le_iff_toNat_le, UInt8.reduceToNat,
      apply_ite UInt8.toNat] at continues
    obtain ⟨x, _, rfl, first, y, rfl, last, value⟩ := continues
    rw [value, toNat_ofNat (by split_ifs at first <;> omega)]
    simp only [Forms, IsTail, and_true]
    split_ifs at first <;> omega
  · simp only [Lead.Continues, completes_last, completes_next, UInt8.le_iff_toNat_le, UInt8.reduceToNat,
      apply_ite UInt8.toNat] at continues
    obtain ⟨x, _, rfl, first, y, _, rfl, second, z, rfl, last, value⟩ := continues
    rw [value, toNat_ofNat (by split_ifs at first <;> omega)]
    simp only [Forms, IsTail, and_true]
    split_ifs at first <;> omega

theorem continues_of_forms {more : List UInt8} {c : Char} (forms : Forms (b :: more) c.toNat) :
    (lead b).Continues more c := by
  have valid := toNat_valid c
  have back : ∀ n, c.toNat = n → c = Char.ofNat n := fun n same => same ▸ (Char.ofNat_toNat c).symm
  match more with
  | [] =>
      rw [lead_of_whole (forms.2 ▸ forms.1)]
      exact ⟨rfl, back _ forms.2⟩
  | [x] =>
      simp only [Forms, IsTail] at forms
      rw [lead_of_two (by omega), Lead.Continues]
      simp only [completes_last, UInt8.le_iff_toNat_le, UInt8.reduceToNat]
      exact ⟨x, rfl, by omega, back _ (by omega)⟩
  | [x, y] =>
      simp only [Forms, IsTail] at forms
      rw [lead_of_three (by omega), Lead.Continues]
      simp only [completes_last, completes_next, UInt8.le_iff_toNat_le, UInt8.reduceToNat, apply_ite UInt8.toNat]
      exact ⟨x, _, rfl, by split_ifs <;> omega, y, rfl, by omega, back _ (by omega)⟩
  | [x, y, z] =>
      simp only [Forms, IsTail] at forms
      rw [lead_of_four (by omega), Lead.Continues]
      simp only [completes_last, completes_next, UInt8.le_iff_toNat_le, UInt8.reduceToNat, apply_ite UInt8.toNat]
      exact ⟨x, _, rfl, by split_ifs <;> omega, y, _, rfl, by omega, z, rfl, by omega, back _ (by omega)⟩
  | _ :: _ :: _ :: _ :: _ => cases forms

theorem encodeChar_eq_cons_iff {more : List UInt8} {c : Char} :
    utf8EncodeChar c = b :: more ↔ (lead b).Continues more c :=
  encodeChar_eq_iff.trans ⟨continues_of_forms, forms_of_continues⟩

theorem encodeChar_ne_nil (c : Char) : utf8EncodeChar c ≠ [] := by
  intro none
  have forms := forms_encodeChar c
  rw [none] at forms
  cases forms

end Leads

section Reading

def Begins (bytes : List UInt8) : Prop :=
  ∃ c more, utf8EncodeChar c = bytes ++ more

-- No character stands at the front of the bytes, and `part` is what is replaced there: the longest stretch that begins
-- a character, or else a single byte. Behind it comes `rest`.
structure InvalidPart (part rest : List UInt8) : Prop where
  present : part ≠ []
  noChar : ∀ c, ¬ utf8EncodeChar c <+: part ++ rest
  short : part.length = 1 ∨ Begins part
  longest : ∀ extra, extra ≠ [] → extra <+: rest → ¬ Begins (part ++ extra)

/-- Each form of a character is read as that character, and each invalid part as one replacement. -/
inductive Reads : List UInt8 → List Char → Prop where
  | done : Reads [] []
  | char (c : Char) {rest : List UInt8} {chars : List Char} (later : Reads rest chars) :
      Reads (utf8EncodeChar c ++ rest) (c :: chars)
  | replaced {part rest : List UInt8} {chars : List Char} (invalid : InvalidPart part rest) (later : Reads rest chars) :
      Reads (part ++ rest) (replacement :: chars)

theorem InvalidPart.not_longer {part rest extra others : List UInt8} (invalid : InvalidPart part rest)
    (other : InvalidPart (part ++ extra) others) (same : rest = extra ++ others) : extra = [] := by
  by_contra longer
  rcases other.short with single | begins
  · have first := List.length_pos_iff.mpr invalid.present
    have more := List.length_pos_iff.mpr longer
    rw [List.length_append] at single
    omega
  · exact invalid.longest extra longer (same ▸ List.prefix_append extra others) begins

theorem InvalidPart.unique {part rest other others : List UInt8} (invalid : InvalidPart part rest)
    (invalidToo : InvalidPart other others) (same : part ++ rest = other ++ others) : part = other ∧ rest = others := by
  rcases List.append_eq_append_iff.mp same with ⟨extra, rfl, split⟩ | ⟨extra, rfl, split⟩
  · cases invalid.not_longer invalidToo split
    simpa using split
  · cases invalidToo.not_longer invalid split
    simpa using split.symm

theorem Reads.unique {bytes : List UInt8} {chars others : List Char} (reads : Reads bytes chars)
    (readsToo : Reads bytes others) : chars = others := by
  induction reads generalizing others with
  | done =>
      generalize none : ([] : List UInt8) = bytes at readsToo
      cases readsToo with
      | done => rfl
      | char c => exact absurd (List.append_eq_nil_iff.mp none.symm).1 (encodeChar_ne_nil c)
      | replaced invalid => exact absurd (List.append_eq_nil_iff.mp none.symm).1 invalid.present
  | @char c rest chars _ ih =>
      generalize whole : utf8EncodeChar c ++ rest = bytes at readsToo
      cases readsToo with
      | done => exact absurd (List.append_eq_nil_iff.mp whole).1 (encodeChar_ne_nil c)
      | char d later =>
          obtain ⟨rfl, rfl⟩ := encodeChar_append_inj whole
          rw [ih later]
      | replaced invalid => exact absurd (whole ▸ List.prefix_append ..) (invalid.noChar c)
  | @replaced part rest chars invalid _ ih =>
      generalize whole : part ++ rest = bytes at readsToo
      cases readsToo with
      | done => exact absurd (List.append_eq_nil_iff.mp whole).1 invalid.present
      | char c => exact absurd (whole ▸ List.prefix_append ..) (invalid.noChar c)
      | replaced invalidToo later =>
          obtain ⟨rfl, rfl⟩ := invalid.unique invalidToo whole
          rw [ih later]

theorem reads_encoded (chars : List Char) : Reads (chars.flatMap utf8EncodeChar) chars := by
  induction chars with
  | nil => exact .done
  | cons c rest ih => exact .char c ih

end Reading

section Decoder

-- The bytes `read` have begun a character, and what completes it is what completes `p`.
structure Begun (read : List UInt8) (p : Unfinished) : Prop where
  present : read ≠ []
  range : p.low ≤ p.high
  completes : ∀ more c, utf8EncodeChar c = read ++ more ↔ Completes p more c

theorem tail_low_le_high : (0x80 : UInt8) ≤ 0xBF := by
  decide

theorem low_le_high {b : UInt8} {p : Unfinished} (opens : lead b = .opens p) : p.low ≤ p.high := by
  rcases lead_cases b with ⟨_, is⟩ | is | ⟨_, is⟩ | ⟨_, is⟩ | ⟨_, is⟩ <;> rw [is] at opens <;> cases opens
  · exact tail_low_le_high
  · by_cases first : b.toNat = 0xE0
    · simp [first]
    · simp only [if_neg first]
      split_ifs <;> decide
  · by_cases first : b.toNat = 0xF0
    · simp [first]
    · simp only [if_neg first]
      split_ifs <;> decide

theorem begun_of_lead {b : UInt8} {p : Unfinished} (opens : lead b = .opens p) : Begun [b] p := by
  refine ⟨List.cons_ne_nil b [], low_le_high opens, fun more c => ?_⟩
  rw [List.singleton_append, encodeChar_eq_cons_iff, opens]
  rfl

theorem invalid_of_lead {b : UInt8} (invalid : lead b = .invalid) (rest : List UInt8) : InvalidPart [b] rest := by
  have noForm : ∀ c more, utf8EncodeChar c ≠ b :: more := by
    intro c more form
    have continues := encodeChar_eq_cons_iff.mp form
    rw [invalid] at continues
    cases continues
  refine ⟨List.cons_ne_nil b [], ?_, .inl rfl, ?_⟩
  · rintro c ⟨behind, whole⟩
    cases form : utf8EncodeChar c with
    | nil => exact encodeChar_ne_nil c form
    | cons a more =>
        rw [form] at whole
        cases whole
        exact noForm c more form
  · rintro extra _ _ ⟨c, more, form⟩
    exact noForm c _ form

variable {read : List UInt8} {p : Unfinished} {b : UInt8}

theorem Begun.last (begun : Begun read p) (within : p.low ≤ b ∧ b ≤ p.high) (last : p.after = 0) :
    utf8EncodeChar (Char.ofNat (p.bits * 64 + (b.toNat - 0x80))) = read ++ [b] := by
  rw [begun.completes, Completes, last]
  exact ⟨within, rfl, rfl⟩

theorem Begun.next (begun : Begun read p) (within : p.low ≤ b ∧ b ≤ p.high) {after : Nat} (next : p.after = after + 1) :
    Begun (read ++ [b]) ⟨after, p.bits * 64 + (b.toNat - 0x80), 0x80, 0xBF⟩ := by
  refine ⟨by simp, tail_low_le_high, fun more c => ?_⟩
  rw [List.append_assoc, List.singleton_append, begun.completes, Completes, next]
  exact and_iff_right within

theorem exists_completes {p : Unfinished} (range : p.low ≤ p.high) : ∃ more c, Completes p more c := by
  obtain ⟨after, bits, low, high⟩ := p
  induction after generalizing bits low high with
  | zero => exact ⟨[low], _, completes_last.mpr ⟨low, rfl, ⟨UInt8.le_refl low, range⟩, rfl⟩⟩
  | succ after ih =>
      obtain ⟨more, c, completes⟩ := ih (bits * 64 + (low.toNat - 0x80)) 0x80 0xBF tail_low_le_high
      exact ⟨low :: more, c, completes_next.mpr ⟨low, more, rfl, ⟨UInt8.le_refl low, range⟩, completes⟩⟩

theorem Begun.invalid (begun : Begun read p) {rest : List UInt8}
    (stops : ∀ b later, rest = b :: later → ¬ (p.low ≤ b ∧ b ≤ p.high)) : InvalidPart read rest := by
  obtain ⟨more, d, completes⟩ := exists_completes begun.range
  have form := (begun.completes more d).mpr completes
  have stuck : ∀ {b later behind more c}, rest = b :: later ++ behind → ¬ Completes p (b :: more) c :=
    fun whole completes => stops _ _ whole completes.1
  refine ⟨begun.present, ?_, .inr ⟨d, more, form⟩, ?_⟩
  · rintro c ⟨behind, whole⟩
    rcases List.append_eq_append_iff.mp whole with ⟨extra, split, _⟩ | ⟨extra, split, later⟩
    -- A whole character inside `read` would be the one that `read` has only begun.
    · have same : utf8EncodeChar c ++ (extra ++ more) = utf8EncodeChar d ++ [] := by
        rw [form, split, List.append_nil, List.append_assoc]
      rw [(List.append_eq_nil_iff.mp (encodeChar_append_inj same).2).2] at completes
      cases completes
    · have goesOn := (begun.completes extra c).mp split
      cases extra with
      | nil => cases goesOn
      | cons b others => exact stuck later goesOn
  · rintro extra present ⟨behind, whole⟩ ⟨c, others, longer⟩
    obtain ⟨b, later, rfl⟩ := List.exists_cons_of_ne_nil present
    rw [List.append_assoc] at longer
    exact stuck whole.symm ((begun.completes _ c).mp longer)

theorem decodeFrom_of_whole {c : Char} (is : lead b = .whole c) (rest : List UInt8) :
    decodeFrom none (b :: rest) = c :: decodeFrom none rest := by
  simp [decodeFrom, step, begin, is]

theorem decodeFrom_of_opens (is : lead b = .opens p) (rest : List UInt8) :
    decodeFrom none (b :: rest) = decodeFrom (some p) rest := by
  simp [decodeFrom, step, begin, is]

theorem decodeFrom_of_invalid (is : lead b = .invalid) (rest : List UInt8) :
    decodeFrom none (b :: rest) = replacement :: decodeFrom none rest := by
  simp [decodeFrom, step, begin, is]

theorem decodeFrom_of_last (within : p.low ≤ b ∧ b ≤ p.high) (last : p.after = 0) (rest : List UInt8) :
    decodeFrom (some p) (b :: rest) = Char.ofNat (p.bits * 64 + (b.toNat - 0x80)) :: decodeFrom none rest := by
  simp [decodeFrom, step, within, last]

theorem decodeFrom_of_next (within : p.low ≤ b ∧ b ≤ p.high) {after : Nat} (next : p.after = after + 1)
    (rest : List UInt8) : decodeFrom (some p) (b :: rest) =
      decodeFrom (some ⟨after, p.bits * 64 + (b.toNat - 0x80), 0x80, 0xBF⟩) rest := by
  simp [decodeFrom, step, within, next]

theorem decodeFrom_of_stop (outside : ¬ (p.low ≤ b ∧ b ≤ p.high)) (rest : List UInt8) :
    decodeFrom (some p) (b :: rest) = replacement :: decodeFrom none (b :: rest) := by
  simp only [decodeFrom, step, if_neg outside]
  rfl

theorem reads_decodeFrom (bytes : List UInt8) :
    Reads bytes (decodeFrom none bytes) ∧
      ∀ read p, Begun read p → Reads (read ++ bytes) (decodeFrom (some p) bytes) := by
  induction bytes with
  | nil =>
      refine ⟨.done, fun read p begun => ?_⟩
      exact .replaced (begun.invalid fun b later none => nomatch none) .done
  | cons b rest ih =>
      obtain ⟨fresh, inside⟩ := ih
      have first : Reads (b :: rest) (decodeFrom none (b :: rest)) := by
        cases is : lead b with
        | whole c =>
            rw [decodeFrom_of_whole is]
            have form : utf8EncodeChar c = [b] := encodeChar_eq_cons_iff.mpr (is ▸ ⟨rfl, rfl⟩)
            rw [← List.singleton_append, ← form]
            exact .char c fresh
        | opens p =>
            rw [decodeFrom_of_opens is]
            exact inside [b] p (begun_of_lead is)
        | invalid =>
            rw [decodeFrom_of_invalid is]
            exact .replaced (invalid_of_lead is rest) fresh
      refine ⟨first, fun read p begun => ?_⟩
      by_cases within : p.low ≤ b ∧ b ≤ p.high
      · cases left : p.after with
        | zero =>
            rw [decodeFrom_of_last within left, List.append_cons, ← begun.last within left]
            exact .char _ fresh
        | succ after =>
            rw [decodeFrom_of_next within left, List.append_cons]
            exact inside _ _ (begun.next within left)
      · rw [decodeFrom_of_stop within]
        refine .replaced (begun.invalid fun c later same => ?_) first
        cases same
        exact within

theorem reads_iff {bytes : ByteArray} {text : String} : Reads bytes.data.toList text.toList ↔ text = decode bytes := by
  have reads : Reads bytes.data.toList (decode bytes).toList := by
    rw [decode, String.toList_ofList]
    exact (reads_decodeFrom bytes.data.toList).1
  constructor
  · intro other
    exact String.toList_inj.mp (other.unique reads)
  · rintro rfl
    exact reads

theorem toUTF8_decode {bytes : ByteArray} (valid : bytes.IsValidUTF8) : (decode bytes).toUTF8 = bytes := by
  obtain ⟨chars, rfl⟩ := valid
  have text : String.ofList chars = decode chars.utf8Encode := by
    apply reads_iff.mp
    rw [String.toList_ofList, List.utf8Encode, List.data_toByteArray]
    exact reads_encoded chars
  rw [← text]
  exact String.toByteArray_ofList

theorem decode_toUTF8 (text : String) : decode text.toUTF8 = text :=
  String.toByteArray_inj.mp (toUTF8_decode text.isValidUTF8)

end Decoder

end Utf8

namespace Source

variable {source : Source} {a b : Nat}

theorem slice_of_range (ordered : a ≤ b) (inside : b ≤ source.content.size) :
    source.slice a b = Utf8.decode (source.content.extract a b) := by
  rw [slice, if_pos ⟨ordered, inside⟩]

theorem slice_outside (outside : b < a ∨ source.content.size < b) : source.slice a b = "" := by
  rw [slice, if_neg (by omega)]

theorem slice_full {text : String} (whole : source.content = text.toUTF8) :
    source.slice 0 source.content.size = text := by
  rw [slice_of_range (Nat.zero_le _) (Nat.le_refl _), ByteArray.extract_zero_size, whole, Utf8.decode_toUTF8]

theorem toUTF8_slice (valid : (source.content.extract a b).IsValidUTF8) (ordered : a ≤ b)
    (inside : b ≤ source.content.size) : (source.slice a b).toUTF8 = source.content.extract a b := by
  rw [slice_of_range ordered inside, Utf8.toUTF8_decode valid]

theorem toUTF8_slice_of_boundaries (valid : source.content.IsValidUTF8) (ordered : a ≤ b)
    (first : String.Pos.Raw.IsValid (String.fromUTF8 source.content valid) ⟨a⟩)
    (last : String.Pos.Raw.IsValid (String.fromUTF8 source.content valid) ⟨b⟩) :
    (source.slice a b).toUTF8 = source.content.extract a b := by
  apply toUTF8_slice _ ordered last.le_rawEndPos
  exact (String.Pos.Raw.isValidUTF8_extract_iff ⟨a⟩ ⟨b⟩ ordered last.le_rawEndPos).mpr (.inr ⟨first, last⟩)

/-- Between the character boundaries of a valid content a slice has the very bytes of the range, and slices of adjacent
ranges join. Any other range is empty or read by the rules. -/
theorem slices_are_exact (source : Source) :
    (∀ (valid : source.content.IsValidUTF8) (a b c : Nat), a ≤ b → b ≤ c →
      String.Pos.Raw.IsValid (String.fromUTF8 source.content valid) ⟨a⟩ →
      String.Pos.Raw.IsValid (String.fromUTF8 source.content valid) ⟨b⟩ →
      String.Pos.Raw.IsValid (String.fromUTF8 source.content valid) ⟨c⟩ →
      (source.slice a b).toUTF8 = source.content.extract a b ∧
        source.slice a c = source.slice a b ++ source.slice b c) ∧
    (∀ a b, b < a ∨ source.content.size < b → source.slice a b = "") ∧
    (∀ a b, a ≤ b → b ≤ source.content.size →
      ∀ text : String, text = source.slice a b ↔ Utf8.Reads (source.content.extract a b).data.toList text.toList) ∧
    (∀ (a b : Nat) (other : Source), other.content = (source.slice a b).toUTF8 →
      other.slice 0 other.content.size = source.slice a b) := by
  refine ⟨?_, fun a b => slice_outside, ?_, fun a b other => slice_full⟩
  · intro valid a b c ordered orderedToo first middle last
    have left := toUTF8_slice_of_boundaries valid ordered first middle
    have right := toUTF8_slice_of_boundaries valid orderedToo middle last
    have whole := toUTF8_slice_of_boundaries valid (Nat.le_trans ordered orderedToo) first last
    refine ⟨left, String.toByteArray_inj.mp ?_⟩
    calc (source.slice a c).toUTF8
        = source.content.extract a b ++ source.content.extract b c := by
          rw [whole, ByteArray.extract_eq_extract_append_extract b ordered orderedToo]
      _ = (source.slice a b ++ source.slice b c).toByteArray := by
          rw [String.toByteArray_append, ← left, ← right]
          rfl
  · intro a b ordered inside text
    rw [slice_of_range ordered inside, Utf8.reads_iff]

def priced : Source :=
  ⟨"aé€".toUTF8, [], .verbatim⟩

-- A form cut short by the next character, an overlong one and the first half of a surrogate.
def broken : Source :=
  ⟨⟨#[0x61, 0xE2, 0x82, 0x28, 0xC0, 0xED, 0xA0]⟩, [], .verbatim⟩

theorem exact_priced_and_broken :
    ((priced.slice 1 3).toUTF8 = priced.content.extract 1 3 ∧ priced.slice 1 6 = priced.slice 1 3 ++ priced.slice 3 6) ∧
      broken.slice 4 3 = "" ∧ broken.slice 0 7 = "a\uFFFD(\uFFFD\uFFFD\uFFFD" ∧
      Utf8.Reads (broken.content.extract 0 7).data.toList "a\uFFFD(\uFFFD\uFFFD\uFFFD".toList := by
  have valid : priced.content.IsValidUTF8 := String.isValidUTF8 "aé€"
  have boundary : ∀ left right : String, "aé€" = left ++ right →
      String.Pos.Raw.IsValid (String.fromUTF8 priced.content valid) left.rawEndPos :=
    fun left right whole => String.Pos.Raw.isValid_iff_exists_append.mpr ⟨left, right, whole, rfl⟩
  have text : "a\uFFFD(\uFFFD\uFFFD\uFFFD" = broken.slice 0 7 := by decide
  refine ⟨?_, (slices_are_exact broken).2.1 4 3 (by decide), text.symm, ?_⟩
  · exact (slices_are_exact priced).1 valid 1 3 6 (by decide) (by decide)
      (boundary "a" "é€" rfl) (boundary "aé" "€" rfl) (boundary "aé€" "" rfl)
  · exact ((slices_are_exact broken).2.2.1 0 7 (by decide) (by decide) _).mp text

end Source

end CodeOutline
