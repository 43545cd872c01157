import CodeOutline.Proofs.Declarators
import Mathlib.Logic.Relation

set_option autoImplicit false

namespace CodeOutline.Grammar.C

inductive Wraps (outer inner : Cursor) : Prop where
  | labelled (noName : finalKinds.contains outer.kind = false) (found : outer.field? "declarator" = some inner)
  | unlabelled (noName : finalKinds.contains outer.kind = false) (none : outer.field? "declarator" = none)
      (first : outer.firstNamed? = some inner)

def Names (cursor name : Cursor) : Prop :=
  ∃ declarator, cursor.field? "declarator" = some declarator ∧ Relation.ReflTransGen Wraps declarator name ∧
    finalKinds.contains name.kind

theorem wraps_iff {outer inner : Cursor} :
    Wraps outer inner ↔ finalKinds.contains outer.kind = false ∧ inner? outer = some inner := by
  rw [inner?, Option.or_eq_some_iff]
  constructor
  · intro wraps
    cases wraps with
    | labelled noName found => exact ⟨noName, .inl found⟩
    | unlabelled noName none first => exact ⟨noName, .inr ⟨none, first⟩⟩
  · rintro ⟨noName, found | ⟨none, first⟩⟩
    · exact .labelled noName found
    · exact .unlabelled noName none first

theorem wraps_wellFounded : WellFounded fun inner outer : Cursor => Wraps outer inner :=
  Subrelation.wf (fun wraps => size_of_inner? (wraps_iff.mp wraps).2) (measure Cursor.size).wf

theorem nameInside_of_name {source : Source} {name : Cursor} (final : finalKinds.contains name.kind) :
    nameInside source name = source.text name := by
  rw [nameInside_eq, if_pos final]

theorem nameInside_of_step {source : Source} {outer inner : Cursor} (wraps : Wraps outer inner) :
    nameInside source outer = nameInside source inner := by
  obtain ⟨noName, next⟩ := wraps_iff.mp wraps
  rw [nameInside_eq, if_neg (Bool.eq_false_iff.mp noName), next]
  rfl

theorem nameInside_of_wraps {source : Source} {outer inner : Cursor} (way : Relation.ReflTransGen Wraps outer inner) :
    nameInside source outer = nameInside source inner := by
  induction way with
  | refl => rfl
  | tail _ wraps ih => exact ih.trans (nameInside_of_step wraps)

theorem nameInside_of_nameless {source : Source} {declarator : Cursor}
    (nameless : ∀ name, Relation.ReflTransGen Wraps declarator name → finalKinds.contains name.kind = false) :
    nameInside source declarator = "" := by
  induction declarator using wraps_wellFounded.induction with
  | _ declarator ih =>
      have noName := nameless declarator .refl
      rw [nameInside_eq, if_neg (Bool.eq_false_iff.mp noName)]
      cases next : inner? declarator with
      | none => rfl
      | some inner =>
          have wraps := wraps_iff.mpr ⟨noName, next⟩
          exact ih inner wraps fun name way => nameless name (.head wraps way)

theorem declaredName_of_names {source : Source} {cursor name : Cursor} (names : Names cursor name) :
    declaredName source cursor = source.text name := by
  obtain ⟨declarator, found, way, final⟩ := names
  rw [declaredName, found]
  exact (nameInside_of_wraps way).trans (nameInside_of_name final)

theorem declaredName_of_nameless {source : Source} {cursor : Cursor} (nameless : ¬ ∃ name, Names cursor name) :
    declaredName source cursor = "" := by
  rw [declaredName]
  cases found : cursor.field? "declarator" with
  | none => rfl
  | some declarator =>
      apply nameInside_of_nameless
      intro name way
      exact Bool.eq_false_iff.mpr fun final => nameless ⟨name, declarator, found, way, final⟩

/-- The declared name is the text of the name in which the nest of declarators ends, or else empty. -/
theorem declared_name_ends_nest (source : Source) (cursor : Cursor) :
    (∀ name, Names cursor name → declaredName source cursor = source.text name) ∧
    (WellFounded fun inner outer : Cursor => Wraps outer inner) ∧
    (declaredName source cursor = "" ↔
      (¬ ∃ name, Names cursor name) ∨ ∃ name, Names cursor name ∧ source.text name = "") := by
  refine ⟨fun name names => declaredName_of_names names, wraps_wellFounded, ⟨fun empty => ?_, ?_⟩⟩
  · by_cases named : ∃ name, Names cursor name
    · obtain ⟨name, names⟩ := named
      exact .inr ⟨name, names, (declaredName_of_names names).symm.trans empty⟩
    · exact .inl named
  · rintro (nameless | ⟨name, names, empty⟩)
    · exact declaredName_of_nameless nameless
    · exact (declaredName_of_names names).trans empty

theorem pointerTree_names_variable :
    ∃ declaration name, (Cursor.root Language.pointerTree).children[1]? = some declaration ∧
      Names declaration name ∧ declaredName Language.pointerSource declaration = Language.pointerSource.text name ∧
      Language.pointerSource.text name = "x" := by
  obtain ⟨declaration, name, found, names, text⟩ : ∃ declaration name,
      (Cursor.root Language.pointerTree).children[1]? = some declaration ∧ Names declaration name ∧
      Language.pointerSource.text name = "x" :=
    ⟨_, _, rfl, ⟨_, rfl, .head (.labelled rfl rfl) (.head (.labelled rfl rfl) (.head (.unlabelled rfl rfl rfl)
      (.head (.labelled rfl rfl) (.head (.labelled rfl rfl) (.head (.unlabelled rfl rfl rfl)
      (.head (.labelled rfl rfl) .refl)))))), rfl⟩, by decide +kernel⟩
  exact ⟨declaration, name, found, names, (declared_name_ends_nest Language.pointerSource declaration).1 name names,
    text⟩

end CodeOutline.Grammar.C
