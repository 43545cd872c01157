import CodeOutline.Document
import CodeOutline.Proofs.Walk
import Mathlib.Data.List.Forall2

set_option autoImplicit false

namespace CodeOutline

inductive Symbol.Twin (related : Declaration → Declaration → Prop) : Symbol → Symbol → Prop where
  | intro {left right : Declaration} {children others : List Symbol} (same : related left right)
      (below : List.Forall₂ (Twin related) children others) : Twin related ⟨left, children⟩ ⟨right, others⟩

namespace Symbol

variable {related : Declaration → Declaration → Prop}

mutual
theorem eq_of_twin (equal : ∀ left right, related left right → left = right) (symbol other : Symbol)
    (twin : Twin related symbol other) : symbol = other := by
  cases symbol with
  | mk declaration children =>
      cases twin with
      | intro same below => rw [equal _ _ same, eq_of_twins equal children _ below]
theorem eq_of_twins (equal : ∀ left right, related left right → left = right) (symbols others : List Symbol)
    (twins : List.Forall₂ (Twin related) symbols others) : symbols = others := by
  cases symbols with
  | nil =>
      cases twins
      rfl
  | cons symbol rest =>
      cases twins with
      | cons first later => rw [eq_of_twin equal symbol _ first, eq_of_twins equal rest _ later]
end

end Symbol

namespace Layout

variable {related : Declaration → Declaration → Prop}

mutual
theorem lines_of_twin (alike : ∀ left right, related left right → right = { left with kind := right.kind })
    (style : Style) (options : Options) (depth : Nat) (symbol other : Symbol) (twin : Symbol.Twin related symbol other) :
    lines style options depth other = lines style options depth symbol := by
  cases symbol with
  | mk declaration children =>
      cases twin with
      | intro same below =>
          rw [lines, lines, alike _ _ same, allLines_of_twins alike style options (depth + 1) children _ below]
          rfl
theorem allLines_of_twins (alike : ∀ left right, related left right → right = { left with kind := right.kind })
    (style : Style) (options : Options) (depth : Nat) (symbols others : List Symbol)
    (twins : List.Forall₂ (Symbol.Twin related) symbols others) :
    allLines style options depth others = allLines style options depth symbols := by
  cases symbols with
  | nil =>
      cases twins
      rfl
  | cons symbol rest =>
      cases twins with
      | cons first later =>
          rw [allLines, allLines, lines_of_twin alike style options depth symbol _ first,
            allLines_of_twins alike style options depth rest _ later]
end

theorem render_of_twins (alike : ∀ left right, related left right → right = { left with kind := right.kind })
    (style : Style) (options : Options) {symbols others : List Symbol}
    (twins : List.Forall₂ (Symbol.Twin related) symbols others) :
    render style options symbols = render style options others := by
  rw [render, render, allLines_of_twins alike style options 0 symbols others twins]

end Layout

namespace Grammar

def Declares (grammar : Grammar) (source : Source) (origin : Cursor) (declaration : Declaration) : Prop :=
  ∃ depth finding, grammar.Finds source depth origin finding ∧ finding.declaration = declaration

inductive InStep (first second : Grammar) (source : Source) (related : Declaration → Declaration → Prop)
    (cursor : Cursor) : Prop where
  | skip (left : first.role source cursor = .skip) (right : second.role source cursor = .skip)
  | enter (left : first.role source cursor = .enter) (right : second.role source cursor = .enter)
  | declares {kind other : Kind} (left : first.role source cursor = .declares kind)
      (right : second.role source cursor = .declares other)
      (findings : ∀ depth, List.Forall₂ (fun a b => related a.declaration b.declaration ∧ a.members = b.members)
        (first.findings source cursor kind depth) (second.findings source cursor other depth))

def Shared (first second : Grammar) (source : Source) (root : Cursor) (related : Cursor → Declaration → Declaration → Prop)
    (left right : Declaration) : Prop :=
  ∃ origin, root.Holds origin ∧ first.Declares source origin left ∧ second.Declares source origin right ∧
    related origin left right

section Walks

variable {first second : Grammar} {source : Source} {root : Cursor} {related : Cursor → Declaration → Declaration → Prop}

theorem forall₂_with_mem {α β : Type} {relation : α → β → Prop} {left : List α} {right : List β}
    (pairs : List.Forall₂ relation left right) :
    List.Forall₂ (fun a b => a ∈ left ∧ b ∈ right ∧ relation a b) left right := by
  induction pairs with
  | nil => exact .nil
  | cons head _ ih =>
      refine .cons ⟨List.mem_cons_self, List.mem_cons_self, head⟩ (ih.imp fun a b ⟨memberA, memberB, same⟩ => ?_)
      exact ⟨List.mem_cons_of_mem _ memberA, List.mem_cons_of_mem _ memberB, same⟩

theorem complete_twin {shared : Declaration → Declaration → Prop} {depth : Nat} {left right : Finding}
    (same : shared left.declaration right.declaration) (members : left.members = right.members)
    (below : ∀ cursor, left.members = some cursor →
      List.Forall₂ (Symbol.Twin shared) (first.symbolsIn source .everything (depth + 1) cursor)
        (second.symbolsIn source .everything (depth + 1) cursor)) :
    Symbol.Twin shared (first.complete source .everything depth left)
      (second.complete source .everything depth right) := by
  rw [complete, complete, ← members]
  refine .intro same ?_
  cases found : left.members with
  | none => exact .nil
  | some cursor => exact below cursor found

theorem symbolsIn_twins (held : first.MembersHeld)
    (inStep : ∀ cursor, root.Holds cursor → InStep first second source (related cursor) cursor) (depth : Nat)
    (parent : Cursor) (inside : root.Holds parent) :
    List.Forall₂ (Symbol.Twin (Shared first second source root related))
      (first.symbolsIn source .everything depth parent) (second.symbolsIn source .everything depth parent) := by
  induction depth, parent using walk_induction first source with
  | step depth parent entered nested =>
      have atChild : ∀ child ∈ parent.namedChildren,
          List.Forall₂ (Symbol.Twin (Shared first second source root related))
            (first.symbolsAt source .everything depth child) (second.symbolsAt source .everything depth child) := by
        intro child member
        have insideChild := inside.trans (.namedChild member)
        cases inStep child insideChild with
        | skip left right =>
            rw [symbolsAt_of_skip left, symbolsAt_of_skip right]
            exact .nil
        | enter left right =>
            rw [symbolsAt_of_enter left, symbolsAt_of_enter right]
            exact entered child member left insideChild
        | @declares kind other left right findings =>
            rw [symbolsAt_of_shown left, symbolsAt_of_shown right, List.forall₂_map_left_iff, List.forall₂_map_right_iff]
            refine (forall₂_with_mem (findings depth)).imp fun a b ⟨madeA, madeB, same, members⟩ => ?_
            have shared : Shared first second source root related a.declaration b.declaration :=
              ⟨child, insideChild, ⟨depth, a, ⟨kind, left, madeA⟩, rfl⟩, ⟨depth, b, ⟨other, right, madeB⟩, rfl⟩, same⟩
            refine complete_twin shared members fun cursor found => ?_
            exact nested child member kind left a madeA cursor found
              (insideChild.trans (held source child kind depth a madeA cursor found))
      rw [symbolsIn_eq, symbolsIn_eq, List.flatMap_def, List.flatMap_def]
      refine List.rel_flatten ?_
      rw [List.forall₂_map_left_iff, List.forall₂_map_right_iff, List.forall₂_same]
      exact atChild

end Walks

end Grammar

end CodeOutline
