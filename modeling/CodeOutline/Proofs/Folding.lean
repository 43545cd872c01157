import CodeOutline.Proofs.Trimming
import CodeOutline.Text.Spacing
import Mathlib.Data.List.Chain

set_option autoImplicit false

namespace CodeOutline.Spacing

def Flat (text : String) : Prop :=
  ∀ c ∈ text.toList, isFoldable c → c = ' '

theorem flat_foldRuns (inside : Bool) (chars : List Char) : ∀ c ∈ foldRuns inside chars, isFoldable c → c = ' ' := by
  fun_induction foldRuns inside chars with
  | case1 => exact List.forall_mem_nil _
  | case2 c rest _ ih => exact ih
  | case3 _ c rest _ _ ih => exact List.forall_mem_cons.mpr ⟨fun _ => rfl, ih⟩
  | case4 _ c rest kept ih => exact List.forall_mem_cons.mpr ⟨fun foldable => absurd foldable kept, ih⟩

theorem flat_folded (text : String) : Flat (folded.apply text) := by
  rw [Flat, apply, String.toList_ofList]
  exact flat_foldRuns false _

theorem Flat.not_mem {text : String} (flat : Flat text) :
    '\n' ∉ text.toList ∧ '\r' ∉ text.toList ∧ '\t' ∉ text.toList :=
  ⟨fun member => absurd (flat _ member rfl) (by decide), fun member => absurd (flat _ member rfl) (by decide),
    fun member => absurd (flat _ member rfl) (by decide)⟩

theorem not_isFoldable_of_not_isBlank {c : Char} (filled : Text.isBlank c = false) : isFoldable c = false := by
  rw [Bool.eq_false_iff]
  intro foldable
  simp only [isFoldable, Bool.or_eq_true, beq_iff_eq] at foldable
  rcases foldable with ((rfl | rfl) | rfl) | rfl <;> exact absurd filled (by decide)

def Apart (a b : Char) : Prop :=
  ¬ (isFoldable a ∧ isFoldable b)

theorem head_foldRuns (chars : List Char) : (foldRuns true chars).head?.any isFoldable = false := by
  induction chars with
  | nil => rfl
  | cons c rest ih =>
      rw [foldRuns]
      by_cases foldable : isFoldable c
      · rw [if_pos foldable, if_pos rfl]
        exact ih
      · rw [if_neg foldable]
        simpa using foldable

theorem isChain_foldRuns (inside : Bool) (chars : List Char) : (foldRuns inside chars).IsChain Apart := by
  fun_induction foldRuns inside chars with
  | case1 => exact .nil
  | case2 c rest _ ih => exact ih
  | case3 _ c rest _ _ ih =>
      refine List.isChain_cons.mpr ⟨fun next begins both => ?_, ih⟩
      have head := head_foldRuns rest
      rw [Option.mem_def.mp begins] at head
      exact absurd both.2 (Bool.eq_false_iff.mp head)
  | case4 _ c rest kept ih => exact List.isChain_cons.mpr ⟨fun _ _ both => kept both.1, ih⟩

theorem filter_foldRuns (inside : Bool) (chars : List Char) :
    (foldRuns inside chars).filter (!isFoldable ·) = chars.filter (!isFoldable ·) := by
  fun_induction foldRuns inside chars with
  | case1 => rfl
  | case2 c rest foldable ih => simpa [foldable] using ih
  | case3 _ c rest foldable _ ih =>
      have space : isFoldable ' ' := rfl
      simpa [foldable, space] using ih
  | case4 _ c rest kept ih => simpa [kept] using ih

theorem foldRuns_eq_self {chars : List Char} (flat : ∀ c ∈ chars, isFoldable c → c = ' ')
    (apart : chars.IsChain Apart) : foldRuns false chars = chars := by
  induction chars with
  | nil => rfl
  | cons c rest ih =>
      obtain ⟨first, flatRest⟩ := List.forall_mem_cons.mp flat
      obtain ⟨next, apartRest⟩ := List.isChain_cons.mp apart
      rw [foldRuns]
      by_cases foldable : isFoldable c
      · rw [if_pos foldable, if_neg Bool.false_ne_true, first foldable]
        congr 1
        cases rest with
        | nil => rfl
        | cons d others =>
            have kept : ¬ isFoldable d := fun both => next d rfl ⟨foldable, both⟩
            have same := ih flatRest apartRest
            rw [foldRuns, if_neg kept] at same ⊢
            exact same
      · rw [if_neg foldable, ih flatRest apartRest]

theorem foldRuns_append_cons (inside : Bool) (front : List Char) {c : Char} (kept : isFoldable c = false)
    (back : List Char) : foldRuns inside (front ++ c :: back) = foldRuns inside front ++ c :: foldRuns false back := by
  fun_induction foldRuns inside front with
  | case1 => simp [foldRuns, kept]
  | case2 d rest foldable ih => simpa [foldRuns, foldable] using ih
  | case3 inside d rest foldable outside ih => simpa [foldRuns, foldable, outside] using ih
  | case4 inside d rest other ih => simpa [foldRuns, other] using ih

theorem foldRuns_run {gap : List Char} (all : ∀ c ∈ gap, isFoldable c) {c : Char} (kept : isFoldable c = false)
    (rest : List Char) : foldRuns true (gap ++ c :: rest) = c :: foldRuns false rest := by
  induction gap with
  | nil => simp [foldRuns, kept]
  | cons d others ih =>
      obtain ⟨foldable, allOthers⟩ := List.forall_mem_cons.mp all
      simpa [foldRuns, foldable] using ih allOthers

theorem foldRuns_between (front back : List Char) {c d : Char} {gap : List Char} (keptBefore : isFoldable c = false)
    (keptAfter : isFoldable d = false) (present : gap ≠ []) (all : ∀ g ∈ gap, isFoldable g) :
    foldRuns false (front ++ c :: (gap ++ d :: back)) =
      foldRuns false (front ++ [c]) ++ ' ' :: foldRuns false (d :: back) := by
  obtain ⟨g, others, rfl⟩ := List.exists_cons_of_ne_nil present
  obtain ⟨foldable, allOthers⟩ := List.forall_mem_cons.mp all
  have run : foldRuns false (g :: others ++ d :: back) = ' ' :: foldRuns false (d :: back) := by
    rw [List.cons_append, foldRuns, if_pos foldable, if_neg Bool.false_ne_true, foldRuns_run allOthers keptAfter]
    simp [foldRuns, keptAfter]
  rw [foldRuns_append_cons false front keptBefore, run, foldRuns_append_cons false front keptBefore, List.append_assoc]
  rfl

theorem head?_foldRuns {chars : List Char} (filled : chars.head?.any Text.isBlank = false) :
    (foldRuns false chars).head? = chars.head? := by
  cases chars with
  | nil => rfl
  | cons c rest =>
      have kept := not_isFoldable_of_not_isBlank filled
      simp [foldRuns, kept]

theorem getLast?_foldRuns {chars : List Char} (filled : chars.getLast?.any Text.isBlank = false) :
    (foldRuns false chars).getLast? = chars.getLast? := by
  cases found : chars.getLast? with
  | none =>
      rw [List.getLast?_eq_none_iff.mp found]
      rfl
  | some c =>
      rw [found] at filled
      have kept := not_isFoldable_of_not_isBlank filled
      obtain ⟨front, rfl⟩ := List.getLast?_eq_some_iff.mp found
      rw [foldRuns_append_cons false front kept, foldRuns, List.getLast?_concat]

structure IsFolded (text : String) : Prop where
  trimmed : Text.endsIn Text.isBlank text = false
  oneLine : '\n' ∉ text.toList ∧ '\r' ∉ text.toList ∧ '\t' ∉ text.toList
  single : ¬ [' ', ' '] <:+: text.toList

theorem toList_folded (text : String) : (folded.apply text).toList = foldRuns false (Text.trim text).toList := by
  rw [apply, String.toList_ofList]

theorem trimmed_folded (text : String) : Text.endsIn Text.isBlank (folded.apply text) = false := by
  have filled := Text.endsIn_trim text
  rw [Text.endsIn, Bool.or_eq_false_iff] at filled ⊢
  rw [toList_folded, head?_foldRuns filled.1, getLast?_foldRuns filled.2]
  exact filled

theorem isFolded_folded (text : String) : IsFolded (folded.apply text) := by
  refine ⟨trimmed_folded text, (flat_folded text).not_mem, ?_⟩
  rintro ⟨front, back, whole⟩
  have apart := isChain_foldRuns false (Text.trim text).toList
  rw [← toList_folded, ← whole] at apart
  exact List.isChain_pair.mp apart.left_of_append.right_of_append ⟨rfl, rfl⟩

theorem trim_folded (text : String) : Text.trim (folded.apply text) = folded.apply text :=
  Text.trimWhile_eq_self_iff.mpr (trimmed_folded text)

theorem folded_idempotent (text : String) : folded.apply (folded.apply text) = folded.apply text := by
  rw [← String.toList_inj, toList_folded, trim_folded]
  refine foldRuns_eq_self (flat_folded text) ?_
  rw [toList_folded]
  exact isChain_foldRuns false _

theorem folded_between {first last gap : String} (closed : first.toList.getLast?.any Text.isBlank = false)
    (opened : last.toList.head?.any Text.isBlank = false) (filledFirst : Text.trim first ≠ "")
    (filledLast : Text.trim last ≠ "") (present : gap ≠ "") (foldable : ∀ c ∈ gap.toList, isFoldable c) :
    folded.apply (first ++ gap ++ last) = folded.apply first ++ " " ++ folded.apply last := by
  -- Trimmed, the first text ends and the last one begins with a character that folding leaves alone.
  obtain ⟨front, c, endsFirst⟩ := (List.eq_nil_or_concat' _).resolve_left (mt String.toList_eq_nil_iff.mp filledFirst)
  obtain ⟨d, back, beginsLast⟩ := List.exists_cons_of_ne_nil (mt String.toList_eq_nil_iff.mp filledLast)
  have keptFirst : isFoldable c = false := by
    have ends := (Bool.or_eq_false_iff.mp (Text.endsIn_trim first)).2
    rw [endsFirst, List.getLast?_concat] at ends
    exact not_isFoldable_of_not_isBlank ends
  have keptLast : isFoldable d = false := by
    have begins := (Bool.or_eq_false_iff.mp (Text.endsIn_trim last)).1
    rw [beginsLast] at begins
    exact not_isFoldable_of_not_isBlank begins
  rw [← String.toList_inj]
  calc (folded.apply (first ++ gap ++ last)).toList
      = foldRuns false (front ++ c :: (gap.toList ++ d :: back)) := by
        rw [toList_folded, Text.trim_between closed opened filledFirst filledLast]
        simp [endsFirst, beginsLast]
    _ = foldRuns false (front ++ [c]) ++ ' ' :: foldRuns false (d :: back) :=
        foldRuns_between front back keptFirst keptLast (mt String.toList_eq_nil_iff.mp present) foldable
    _ = (folded.apply first ++ " " ++ folded.apply last).toList := by
        simp [toList_folded, endsFirst, beginsLast]

/-- Folding leads to a normal form; of two texts with a gap between them each is folded alone. -/
theorem folding_is_normal_form (text : String) :
    IsFolded (folded.apply text) ∧
    (folded.apply text).toList.filter (!isFoldable ·) = (Text.trim text).toList.filter (!isFoldable ·) ∧
    (∀ spacing : Spacing, spacing.apply (spacing.apply text) = spacing.apply text) ∧
    folded.apply (verbatim.apply text) = folded.apply text ∧
    ∀ gap last : String, Text.trim text ≠ "" → Text.trim last ≠ "" → gap ≠ "" → (∀ c ∈ gap.toList, isFoldable c) →
      text.toList.getLast?.any Text.isBlank = false → last.toList.head?.any Text.isBlank = false →
      folded.apply (text ++ gap ++ last) = folded.apply text ++ " " ++ folded.apply last := by
  refine ⟨isFolded_folded text, ?_, ?_, ?_, ?_⟩
  · rw [toList_folded, filter_foldRuns]
  · intro spacing
    cases spacing with
    | verbatim => exact Text.trim_idempotent text
    | folded => exact folded_idempotent text
  · rw [← String.toList_inj, toList_folded, toList_folded, apply, Text.trim_idempotent]
  · intro gap last filledFirst filledLast present foldable closed opened
    exact folded_between closed opened filledFirst filledLast present foldable

-- A vertical tab is blank, but folding leaves it alone.
theorem parameters_fold_apart :
    Text.trim "\x0b  add(int  a," ≠ "" ∧ Text.trim "int\t b)\x0b" ≠ "" ∧
    folded.apply ("\x0b  add(int  a," ++ "\r\n\t" ++ "int\t b)\x0b") =
      folded.apply "\x0b  add(int  a," ++ " " ++ folded.apply "int\t b)\x0b" ∧
    folded.apply "\x0b  add(int  a," = "add(int a," ∧ folded.apply "int\t b)\x0b" = "int b)" := by
  have filledFirst : Text.trim "\x0b  add(int  a," ≠ "" := by decide +kernel
  have filledLast : Text.trim "int\t b)\x0b" ≠ "" := by decide +kernel
  obtain ⟨_, _, _, _, between⟩ := folding_is_normal_form "\x0b  add(int  a,"
  have foldable : "\r\n\t".toList.all isFoldable := by decide +kernel
  refine ⟨filledFirst, filledLast, ?_, by decide +kernel, by decide +kernel⟩
  exact between "\r\n\t" _ filledFirst filledLast (by decide) (List.all_eq_true.mp foldable) (by decide +kernel)
    (by decide +kernel)

end CodeOutline.Spacing
