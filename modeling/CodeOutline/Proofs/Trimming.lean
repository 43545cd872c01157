import CodeOutline.Text.Blank
import Mathlib.Data.List.DropRight
import Mathlib.Data.List.TakeWhile

set_option autoImplicit false

namespace CodeOutline.Text

theorem toList_trimWhile (p : Char → Bool) (text : String) :
    (trimWhile p text).toList = (text.toList.dropWhile p).rdropWhile p := by
  rw [trimWhile, String.toList_ofList]
  rfl

theorem toList_trim (text : String) : (trim text).toList = (text.toList.dropWhile isBlank).rdropWhile isBlank :=
  toList_trimWhile isBlank text

theorem toList_trimEndWhile (p : Char → Bool) (text : String) :
    (trimEndWhile p text).toList = text.toList.rdropWhile p := by
  rw [trimEndWhile, String.toList_ofList]
  rfl

theorem mem_of_mem_trim {c : Char} {text : String} (member : c ∈ (trim text).toList) : c ∈ text.toList := by
  rw [toList_trim] at member
  exact (List.dropWhile_sublist _).subset ((List.rdropWhile_prefix _ _).subset member)

theorem trim_eq_empty_iff {text : String} : trim text = "" ↔ ∀ c ∈ text.toList, isBlank c := by
  rw [← String.toList_eq_nil_iff, toList_trim, List.rdropWhile_eq_nil_iff, ← List.dropWhile_eq_nil_iff,
    List.dropWhile_idempotent, List.dropWhile_eq_nil_iff]

def leadingBlanks (text : String) : String :=
  String.ofList (text.toList.takeWhile isBlank)

def beginsFilled (text : String) : Bool :=
  text.toList.head?.any (!isBlank ·)

theorem dropWhile_of_beginsFilled {text : String} (begins : beginsFilled text) (rest : List Char) :
    (text.toList ++ rest).dropWhile isBlank = text.toList ++ rest := by
  rw [beginsFilled] at begins
  cases letters : text.toList with
  | nil => simp [letters] at begins
  | cons c others =>
      have filled : isBlank c = false := by simpa [letters] using begins
      simp [filled]

theorem trim_of_beginsFilled {words : String} (begins : beginsFilled words) (rest : String) :
    trim (words ++ rest) = trimEndWhile isBlank (words ++ rest) := by
  rw [← String.toList_inj, toList_trim, toList_trimEndWhile, String.toList_append, dropWhile_of_beginsFilled begins]

theorem rdropWhile_append_of_kept {p : Char → Bool} {back : List Char} (kept : back.rdropWhile p ≠ [])
    (front : List Char) : (front ++ back).rdropWhile p = front ++ back.rdropWhile p := by
  have remains : back.reverse.dropWhile p ≠ [] := fun none => kept (by rw [List.rdropWhile, none, List.reverse_nil])
  rw [List.rdropWhile, List.reverse_append, List.dropWhile_append, if_neg (by simpa using remains),
    List.reverse_append, List.reverse_reverse]
  rfl

theorem leadingBlanks_append {first : String} (filled : trim first ≠ "") (rest : String) :
    leadingBlanks (first ++ rest) = leadingBlanks first := by
  have shorter : (first.toList.takeWhile isBlank).length ≠ first.toList.length := by
    intro same
    apply filled
    rw [trim_eq_empty_iff, ← List.takeWhile_eq_self_iff]
    exact (List.takeWhile_prefix _).eq_of_length same
  rw [leadingBlanks, String.toList_append, List.takeWhile_append, if_neg shorter, leadingBlanks]

theorem trim_append_ne_empty {first : String} (filled : trim first ≠ "") (rest : String) : trim (first ++ rest) ≠ "" := by
  intro none
  rw [trim_eq_empty_iff, String.toList_append] at none
  exact filled (trim_eq_empty_iff.mpr fun c member => none c (List.mem_append_left _ member))

theorem trim_append {words text : String} (begins : beginsFilled words) (filled : trim text ≠ "") :
    trim (words ++ text) = words ++ leadingBlanks text ++ trim text := by
  have kept : (text.toList.dropWhile isBlank).rdropWhile isBlank ≠ [] := by
    rw [← toList_trim]
    exact mt String.toList_eq_nil_iff.mp filled
  rw [← String.toList_inj]
  calc (trim (words ++ text)).toList
      = (words.toList ++ text.toList).rdropWhile isBlank := by
        rw [trim_of_beginsFilled begins, toList_trimEndWhile, String.toList_append]
    _ = (words.toList ++ text.toList.takeWhile isBlank ++ text.toList.dropWhile isBlank).rdropWhile isBlank := by
        rw [List.append_assoc, List.takeWhile_append_dropWhile]
    _ = words.toList ++ text.toList.takeWhile isBlank ++ (trim text).toList := by
        rw [rdropWhile_append_of_kept kept, toList_trim]
    _ = (words ++ leadingBlanks text ++ trim text).toList := by
        simp [leadingBlanks]

theorem rdropWhile_append_of_all {p : Char → Bool} {back : List Char} (all : ∀ c ∈ back, p c) (front : List Char) :
    (front ++ back).rdropWhile p = front.rdropWhile p := by
  have reversed : ∀ c ∈ back.reverse, p c := fun c member => all c (List.mem_reverse.mp member)
  rw [List.rdropWhile, List.reverse_append, List.dropWhile_append_of_pos reversed]
  rfl

theorem trimWhile_split (p : Char → Bool) (text : String) :
    ∃ front back : List Char, text.toList = front ++ (trimWhile p text).toList ++ back ∧
      (∀ c ∈ front, p c) ∧ ∀ c ∈ back, p c := by
  refine ⟨text.toList.takeWhile p, (text.toList.dropWhile p).rtakeWhile p, ?_, fun _ => List.mem_takeWhile_imp,
    fun _ => List.mem_rtakeWhile_imp⟩
  rw [toList_trimWhile, List.append_assoc, List.rdropWhile_append_rtakeWhile, List.takeWhile_append_dropWhile]

theorem trimWhile_surrounded {p : Char → Bool} {front back : String} (inFront : ∀ c ∈ front.toList, p c)
    (behind : ∀ c ∈ back.toList, p c) (text : String) : trimWhile p (front ++ text ++ back) = trimWhile p text := by
  rw [← String.toList_inj, toList_trimWhile, toList_trimWhile, String.toList_append, String.toList_append,
    List.append_assoc, List.dropWhile_append_of_pos inFront, List.dropWhile_append]
  by_cases none : text.toList.dropWhile p = []
  · rw [none, List.isEmpty_nil, if_pos rfl, List.dropWhile_eq_nil_iff.mpr behind]
  · rw [if_neg (mt List.isEmpty_iff.mp none), rdropWhile_append_of_all behind]

theorem trimEndWhile_append {p : Char → Bool} {back : String} (kept : trimEndWhile p back ≠ "") (front : String) :
    trimEndWhile p (front ++ back) = front ++ trimEndWhile p back := by
  rw [← String.toList_inj, toList_trimEndWhile, String.toList_append, String.toList_append, toList_trimEndWhile]
  apply rdropWhile_append_of_kept
  rw [← toList_trimEndWhile]
  exact mt String.toList_eq_nil_iff.mp kept

theorem trimEndWhile_trim (text : String) : trimEndWhile isBlank (trim text) = trim text := by
  rw [← String.toList_inj, toList_trimEndWhile, toList_trim, List.rdropWhile_idempotent]

def endsIn (p : Char → Bool) (text : String) : Bool :=
  text.toList.head?.any p || text.toList.getLast?.any p

theorem dropWhile_eq_self {p : Char → Bool} {cs : List Char} : cs.dropWhile p = cs ↔ cs.head?.any p = false := by
  cases cs with
  | nil => exact iff_of_true rfl rfl
  | cons c rest => simp

theorem rdropWhile_eq_self {p : Char → Bool} {cs : List Char} : cs.rdropWhile p = cs ↔ cs.getLast?.any p = false := by
  rw [List.rdropWhile, List.reverse_eq_iff, dropWhile_eq_self, List.head?_reverse]

theorem trimWhile_eq_self_iff {p : Char → Bool} {text : String} : trimWhile p text = text ↔ endsIn p text = false := by
  rw [← String.toList_inj, toList_trimWhile, endsIn, Bool.or_eq_false_iff, ← dropWhile_eq_self, ← rdropWhile_eq_self]
  constructor
  · intro same
    have front : text.toList.dropWhile p = text.toList := by
      apply (List.dropWhile_suffix p).eq_of_length_le
      have shorter := (List.rdropWhile_prefix p (text.toList.dropWhile p)).length_le
      rwa [same] at shorter
    rw [front] at same
    exact ⟨front, same⟩
  · rintro ⟨front, back⟩
    rw [front, back]

theorem trimWhile_idempotent (p : Char → Bool) (text : String) : trimWhile p (trimWhile p text) = trimWhile p text := by
  obtain ⟨front, back, split, inFront, behind⟩ := trimWhile_split p text
  have whole : text = String.ofList front ++ trimWhile p text ++ String.ofList back := by
    rw [← String.toList_inj, split]
    simp
  calc trimWhile p (trimWhile p text)
      = trimWhile p (String.ofList front ++ trimWhile p text ++ String.ofList back) := by
        rw [trimWhile_surrounded (by simpa using inFront) (by simpa using behind)]
    _ = trimWhile p text := by rw [← whole]

theorem trim_idempotent (text : String) : trim (trim text) = trim text :=
  trimWhile_idempotent isBlank text

theorem endsIn_trim (text : String) : endsIn isBlank (trim text) = false :=
  trimWhile_eq_self_iff.mp (trim_idempotent text)

theorem trim_between {first last : String} (closed : first.toList.getLast?.any isBlank = false)
    (opened : last.toList.head?.any isBlank = false) (filledFirst : trim first ≠ "") (filledLast : trim last ≠ "")
    (gap : String) : trim (first ++ gap ++ last) = trim first ++ gap ++ trim last := by
  have front : (trim first).toList = first.toList.dropWhile isBlank := by
    rw [toList_trim, rdropWhile_eq_self]
    cases found : first.toList.dropWhile isBlank with
    | nil => rfl
    | cons c rest =>
        obtain ⟨blanks, whole⟩ := List.dropWhile_suffix isBlank (l := first.toList)
        rw [← whole, found, List.getLast?_append_of_ne_nil _ (List.cons_ne_nil c rest)] at closed
        exact closed
  have back : (trim last).toList = last.toList.rdropWhile isBlank := by
    rw [toList_trim, dropWhile_eq_self.mpr opened]
  have startsFilled : first.toList.dropWhile isBlank ≠ [] := by
    rw [← front]
    exact mt String.toList_eq_nil_iff.mp filledFirst
  have endsFilled : last.toList.rdropWhile isBlank ≠ [] := by
    rw [← back]
    exact mt String.toList_eq_nil_iff.mp filledLast
  rw [← String.toList_inj]
  calc (trim (first ++ gap ++ last)).toList
      = (first.toList.dropWhile isBlank ++ (gap.toList ++ last.toList)).rdropWhile isBlank := by
        rw [toList_trim, String.toList_append, String.toList_append, List.append_assoc, List.dropWhile_append,
          if_neg (mt List.isEmpty_iff.mp startsFilled)]
    _ = first.toList.dropWhile isBlank ++ gap.toList ++ last.toList.rdropWhile isBlank := by
        rw [← List.append_assoc, rdropWhile_append_of_kept endsFilled]
    _ = (trim first ++ gap ++ trim last).toList := by
        rw [String.toList_append, String.toList_append, front, back]

theorem countP_trimWhile {p q : Char → Bool} (apart : ∀ c, p c → q c = false) (text : String) :
    (trimWhile p text).toList.countP q = text.toList.countP q := by
  obtain ⟨front, back, split, inFront, behind⟩ := trimWhile_split p text
  have none : ∀ run : List Char, (∀ c ∈ run, p c) → run.countP q = 0 := by
    intro run all
    apply List.countP_eq_zero.mpr
    intro c member
    rw [apart c (all c member)]
    exact Bool.false_ne_true
  conv => rhs; rw [split, List.countP_append, List.countP_append, none front inFront, none back behind]
  omega

theorem trimWhile_trimWhile_eq_iff {p q : Char → Bool} (apart : ∀ c, p c → q c = false) (text : String) :
    trimWhile p (trimWhile q text) = trimWhile p text ↔ endsIn q text = false := by
  rw [← trimWhile_eq_self_iff]
  constructor
  · intro same
    have counts : (trimWhile q text).toList.countP q = text.toList.countP q := by
      rw [← countP_trimWhile apart, same, countP_trimWhile apart]
    obtain ⟨front, back, split, inFront, behind⟩ := trimWhile_split q text
    have total := congrArg (List.countP q) split
    rw [List.countP_append, List.countP_append, List.countP_eq_length.mpr inFront,
      List.countP_eq_length.mpr behind, counts] at total
    have noFront : front = [] := List.eq_nil_of_length_eq_zero (by omega)
    have noBack : back = [] := List.eq_nil_of_length_eq_zero (by omega)
    rw [← String.toList_inj, split, noFront, noBack, List.nil_append, List.append_nil]
  · intro same
    rw [same]

end CodeOutline.Text
