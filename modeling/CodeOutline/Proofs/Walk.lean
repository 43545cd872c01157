import CodeOutline.Grammar
import CodeOutline.Proofs.Nesting
import Mathlib.Logic.Relation

set_option autoImplicit false

namespace CodeOutline

theorem Cursor.isComment_of_kind {cursor : Cursor} {kind : String} (is : cursor.kind = kind) :
    cursor.isComment = Text.contains kind "comment" := by
  rw [← is]
  rfl

namespace Symbol

inductive Among : List Symbol → Symbol → Prop where
  | here {symbols : List Symbol} {symbol : Symbol} (member : symbol ∈ symbols) : Among symbols symbol
  | inside {symbols : List Symbol} {parent symbol : Symbol} (member : parent ∈ symbols)
      (rest : Among parent.children symbol) : Among symbols symbol

theorem not_among_nil {symbol : Symbol} : ¬ Among [] symbol := by
  intro among
  cases among with
  | here member => cases member
  | inside member => cases member

theorem Among.mono {few many : List Symbol} {symbol : Symbol} (among : Among few symbol) (part : ∀ s ∈ few, s ∈ many) :
    Among many symbol := by
  cases among with
  | here member => exact .here (part _ member)
  | inside member rest => exact .inside (part _ member) rest

theorem among_flatMap {α : Type} {items : List α} {symbolsOf : α → List Symbol} {symbol : Symbol}
    (among : Among (items.flatMap symbolsOf) symbol) : ∃ item ∈ items, Among (symbolsOf item) symbol := by
  cases among with
  | here member =>
      obtain ⟨item, within, made⟩ := List.mem_flatMap.mp member
      exact ⟨item, within, .here made⟩
  | inside member rest =>
      obtain ⟨item, within, made⟩ := List.mem_flatMap.mp member
      exact ⟨item, within, .inside made rest⟩

end Symbol

namespace Grammar

variable {grammar : Grammar} {source : Source} {visibility : Visibility}

theorem walk_induction (grammar : Grammar) (source : Source) {motive : Nat → Cursor → Prop}
    (step : ∀ depth parent,
      (∀ child ∈ parent.namedChildren, grammar.role source child = .enter → motive depth child) →
      (∀ child ∈ parent.namedChildren, ∀ kind, grammar.role source child = .declares kind →
        ∀ finding ∈ grammar.findings source child kind depth, ∀ members, finding.members = some members →
          motive (depth + 1) members) →
      motive depth parent)
    (depth : Nat) (parent : Cursor) : motive depth parent := by
  apply step
  · intro child member _
    exact walk_induction grammar source step depth child
  · intro child member kind _ finding made members found
    exact walk_induction grammar source step (depth + 1) members
termination_by parent.size
decreasing_by
  · exact Cursor.size_of_namedChild member
  · exact Nat.lt_trans (grammar.members_smaller source child kind depth finding made members found)
      (Cursor.size_of_namedChild member)

section Symbols

variable {depth : Nat} {child : Cursor} {kind : Kind}

theorem symbolsAt_of_skip (role : grammar.role source child = .skip) :
    grammar.symbolsAt source visibility depth child = [] := by
  simp only [symbolsAt, role]

theorem symbolsAt_of_enter (role : grammar.role source child = .enter) :
    grammar.symbolsAt source visibility depth child = grammar.symbolsIn source visibility depth child := by
  simp only [symbolsAt, role]

theorem symbolsAt_of_declares (role : grammar.role source child = .declares kind) :
    grammar.symbolsAt source visibility depth child =
      ((grammar.findings source child kind depth).filter fun finding =>
        visibility.shows finding.declaration.kind finding.declaration.name).map
        (grammar.complete source visibility depth) := by
  simp only [symbolsAt, role]

theorem symbolsAt_of_shown (role : grammar.role source child = .declares kind) :
    grammar.symbolsAt source .everything depth child =
      (grammar.findings source child kind depth).map (grammar.complete source .everything depth) := by
  rw [symbolsAt_of_declares role]
  exact congrArg _ (List.filter_eq_self.mpr fun _ _ => rfl)

theorem children_of_complete {finding : Finding} {members : Cursor} (found : finding.members = some members) :
    (grammar.complete source visibility depth finding).children =
      grammar.symbolsIn source visibility (depth + 1) members := by
  simp only [complete, found]

theorem children_of_leaf {finding : Finding} (bare : finding.members = none) :
    (grammar.complete source visibility depth finding).children = [] := by
  simp only [complete, bare]

end Symbols

def MembersHeld (grammar : Grammar) : Prop :=
  ∀ source cursor kind depth, ∀ finding ∈ grammar.findings source cursor kind depth,
    ∀ members, finding.members = some members → cursor.Holds members

def Finds (grammar : Grammar) (source : Source) (depth : Nat) (cursor : Cursor) (finding : Finding) : Prop :=
  ∃ kind, grammar.role source cursor = .declares kind ∧ finding ∈ grammar.findings source cursor kind depth

section Calls

def shownFindings (grammar : Grammar) (source : Source) (visibility : Visibility) (depth : Nat) (cursor : Cursor)
    (kind : Kind) : List Finding :=
  (grammar.findings source cursor kind depth).filter fun finding =>
    visibility.shows finding.declaration.kind finding.declaration.name

-- The walk at `now`, a depth and a node, calls itself at `next`.
inductive Continues (grammar : Grammar) (source : Source) (visibility : Visibility) :
    Nat × Cursor → Nat × Cursor → Prop where
  | enter {depth : Nat} {parent child : Cursor} (member : child ∈ parent.namedChildren)
      (role : grammar.role source child = .enter) : Continues grammar source visibility (depth, child) (depth, parent)
  | members {depth : Nat} {parent child members : Cursor} {kind : Kind} {finding : Finding}
      (member : child ∈ parent.namedChildren) (role : grammar.role source child = .declares kind)
      (shown : finding ∈ grammar.shownFindings source visibility depth child kind)
      (found : finding.members = some members) :
      Continues grammar source visibility (depth + 1, members) (depth, parent)

def Calls (grammar : Grammar) (source : Source) (visibility : Visibility) (first call : Nat × Cursor) : Prop :=
  Relation.ReflTransGen (fun now next => grammar.Continues source visibility next now) first call

theorem holds_of_calls (held : grammar.MembersHeld) {first call : Nat × Cursor}
    (calls : grammar.Calls source visibility first call) : first.2.Holds call.2 := by
  induction calls using Relation.ReflTransGen.head_induction_on with
  | refl => exact .here call.2
  | head continues _ ih =>
      cases continues with
      | enter member _ => exact (Cursor.Holds.namedChild member).trans ih
      | members member _ shown found =>
          have inside := held _ _ _ _ _ (List.mem_filter.mp shown).1 _ found
          exact (Cursor.Holds.namedChild member).trans (inside.trans ih)

theorem call_of_among {depth : Nat} {parent : Cursor} {symbol : Symbol}
    (among : Symbol.Among (grammar.symbolsIn source visibility depth parent) symbol) :
    ∃ call cursor finding, grammar.Calls source visibility (depth, parent) call ∧ cursor ∈ call.2.namedChildren ∧
      grammar.Finds source call.1 cursor finding ∧ symbol = grammar.complete source visibility call.1 finding := by
  induction depth, parent using walk_induction grammar source generalizing symbol with
  | step depth parent entered nested =>
      rw [symbolsIn_eq] at among
      obtain ⟨child, member, amongChild⟩ := Symbol.among_flatMap among
      cases role : grammar.role source child with
      | skip =>
          rw [symbolsAt_of_skip role] at amongChild
          exact absurd amongChild Symbol.not_among_nil
      | enter =>
          rw [symbolsAt_of_enter role] at amongChild
          obtain ⟨call, cursor, finding, calls, rest⟩ := entered child member role amongChild
          exact ⟨call, cursor, finding, .head (.enter member role) calls, rest⟩
      | declares kind =>
          rw [symbolsAt_of_declares role] at amongChild
          cases amongChild with
          | here made =>
              obtain ⟨finding, shown, rfl⟩ := List.mem_map.mp made
              exact ⟨(depth, parent), child, finding, .refl, member, ⟨kind, role, (List.mem_filter.mp shown).1⟩, rfl⟩
          | inside made deeper =>
              obtain ⟨finding, shown, rfl⟩ := List.mem_map.mp made
              cases found : finding.members with
              | none =>
                  rw [children_of_leaf found] at deeper
                  exact absurd deeper Symbol.not_among_nil
              | some members =>
                  rw [children_of_complete found] at deeper
                  obtain ⟨call, cursor, other, calls, rest⟩ :=
                    nested child member kind role finding (List.mem_filter.mp shown).1 members found deeper
                  exact ⟨call, cursor, other, .head (.members member role shown found) calls, rest⟩

theorem among_of_call {first call : Nat × Cursor} {cursor : Cursor} {kind : Kind} {finding : Finding}
    (calls : grammar.Calls source visibility first call) (member : cursor ∈ call.2.namedChildren)
    (role : grammar.role source cursor = .declares kind)
    (shown : finding ∈ grammar.shownFindings source visibility call.1 cursor kind) :
    Symbol.Among (grammar.symbolsIn source visibility first.1 first.2)
      (grammar.complete source visibility call.1 finding) := by
  have made : ∀ {depth : Nat} {parent child : Cursor} {kind : Kind} {finding : Finding},
      child ∈ parent.namedChildren → grammar.role source child = .declares kind →
      finding ∈ grammar.shownFindings source visibility depth child kind →
      grammar.complete source visibility depth finding ∈ grammar.symbolsIn source visibility depth parent := by
    intro depth parent child kind finding member role shown
    rw [symbolsIn_eq]
    refine List.mem_flatMap.mpr ⟨child, member, ?_⟩
    rw [symbolsAt_of_declares role]
    exact List.mem_map.mpr ⟨finding, shown, rfl⟩
  induction calls using Relation.ReflTransGen.head_induction_on with
  | refl => exact .here (made member role shown)
  | head continues _ ih =>
      cases continues with
      | enter within entered =>
          refine ih.mono fun symbol among => ?_
          rw [symbolsIn_eq]
          exact List.mem_flatMap.mpr ⟨_, within, by rwa [symbolsAt_of_enter entered]⟩
      | members within declares shownOuter found =>
          refine .inside (made within declares shownOuter) ?_
          rw [children_of_complete found]
          exact ih

theorem finding_of_among (held : grammar.MembersHeld) {depth : Nat} {parent : Cursor} {symbol : Symbol}
    (among : Symbol.Among (grammar.symbolsIn source visibility depth parent) symbol) :
    ∃ level cursor finding, parent.Holds cursor ∧ grammar.Finds source level cursor finding ∧
      symbol = grammar.complete source visibility level finding := by
  obtain ⟨call, cursor, finding, calls, member, rest⟩ := call_of_among among
  exact ⟨call.1, cursor, finding, (holds_of_calls held calls).trans (.namedChild member), rest⟩

end Calls

end Grammar

end CodeOutline
