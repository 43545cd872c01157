import CodeOutline.Finding
import CodeOutline.Visibility

/-!
Grammars and the walk they share. A grammar says what role a node plays and which declarations a
declaring node makes; `symbolsIn` turns the named children of a node into symbols. The walk continues at
the members of each declaration, which are smaller than the declaring node (`members_smaller`), so it
ends on every tree.
-/

set_option autoImplicit false

namespace CodeOutline

inductive Role where
  | declares (kind : Kind)
  -- The node declares nothing itself, but something inside it may.
  | enter
  | skip
deriving DecidableEq, Repr, Inhabited

def MembersSmaller (findings : List Finding) (size : Nat) : Prop :=
  ∀ finding ∈ findings, ∀ members, finding.members = some members → members.size < size

namespace MembersSmaller

theorem nil (size : Nat) : MembersSmaller [] size :=
  fun _ member => nomatch member

theorem single {finding : Finding} {size : Nat}
    (inside : ∀ members, finding.members = some members → members.size < size) : MembersSmaller [finding] size := by
  intro other member
  rw [List.mem_singleton.mp member]
  exact inside

theorem leaf {finding : Finding} (bare : finding.members = none) (size : Nat) : MembersSmaller [finding] size :=
  single fun _ found => nomatch bare.symm.trans found

theorem field (declaration : Declaration) (cursor : Cursor) (label : String) :
    MembersSmaller [⟨declaration, cursor.field? label⟩] cursor.size :=
  single fun _ found => Cursor.size_of_field? found

end MembersSmaller

structure Grammar where
  role : Source → Cursor → Role
  findings : Source → Cursor → Kind → Nat → List Finding
  members_smaller : ∀ source cursor kind depth, MembersSmaller (findings source cursor kind depth) cursor.size

namespace Grammar

-- The members of a hidden declaration are not looked for.
def symbolsIn (grammar : Grammar) (source : Source) (visibility : Visibility) (depth : Nat) (parent : Cursor) :
    List Symbol :=
  parent.namedChildren.attach.flatMap fun child =>
    match grammar.role source child.val with
    | .skip => []
    | .enter => grammar.symbolsIn source visibility depth child.val
    | .declares kind =>
        (grammar.findings source child.val kind depth).attach.filterMap fun finding =>
          if visibility.shows finding.val.declaration.kind finding.val.declaration.name then
            some ⟨finding.val.declaration,
              match found : finding.val.members with
              | none => []
              | some members => grammar.symbolsIn source visibility (depth + 1) members⟩
          else none
termination_by parent.size
decreasing_by
  · exact Cursor.size_of_namedChild child.property
  · exact Nat.lt_trans (grammar.members_smaller source child.val kind depth finding.val finding.property members found)
      (Cursor.size_of_namedChild child.property)

def complete (grammar : Grammar) (source : Source) (visibility : Visibility) (depth : Nat) (finding : Finding) :
    Symbol :=
  ⟨finding.declaration,
    match finding.members with
    | none => []
    | some members => grammar.symbolsIn source visibility (depth + 1) members⟩

def symbolsAt (grammar : Grammar) (source : Source) (visibility : Visibility) (depth : Nat) (child : Cursor) :
    List Symbol :=
  match grammar.role source child with
  | .skip => []
  | .enter => grammar.symbolsIn source visibility depth child
  | .declares kind =>
      ((grammar.findings source child kind depth).filter fun finding =>
        visibility.shows finding.declaration.kind finding.declaration.name).map
        (grammar.complete source visibility depth)

theorem symbolsIn_eq (grammar : Grammar) (source : Source) (visibility : Visibility) (depth : Nat)
    (parent : Cursor) :
    grammar.symbolsIn source visibility depth parent =
      parent.namedChildren.flatMap (grammar.symbolsAt source visibility depth) := by
  rw [symbolsIn]
  conv => rhs; rw [← List.attach_map_subtype_val parent.namedChildren, List.flatMap_map]
  congr 1
  funext child
  unfold symbolsAt
  split
  · rfl
  · rfl
  · rename_i kind _
    rw [← List.filterMap_eq_map, List.filterMap_filter]
    conv => rhs; rw [← List.attach_map_subtype_val (grammar.findings source child.val kind depth), List.filterMap_map]
    congr 1
    funext finding
    simp only [Function.comp_apply, complete]
    split
    · congr 2
      split <;> simp_all
    · rfl

end Grammar

end CodeOutline
