import CodeOutline.Document
import CodeOutline.Proofs.Arrangement
import Mathlib.Data.List.Basic

set_option autoImplicit false

namespace CodeOutline

namespace Cursor

def StrictlyHolds (cursor target : Cursor) : Prop :=
  ∃ child ∈ cursor.children, child.Holds target

def Apart (a b : Cursor) : Prop :=
  ∀ target, a.Holds target → ¬ b.Holds target

def Precedes (a b : Cursor) : Prop :=
  a.index + a.size ≤ b.index

theorem size_pos (cursor : Cursor) : 0 < cursor.size := by
  rw [size, Node.size_eq]
  omega

theorem range_of_mem_placeAll {parent cursor : Cursor} {before nodes : List Node}
    (member : cursor ∈ placeAll parent before nodes) :
    parent.index + 1 + Node.sizeAll before ≤ cursor.index ∧
      cursor.index + cursor.size ≤ parent.index + 1 + Node.sizeAll before + Node.sizeAll nodes := by
  induction nodes generalizing before with
  | nil => cases member
  | cons node rest ih =>
      rw [Node.sizeAll]
      cases member with
      | head =>
          simp only [index, index.indexIn, size]
          omega
      | tail _ later =>
          have range := ih later
          rw [Node.sizeAll] at range
          omega

theorem range_of_child {cursor child : Cursor} (member : child ∈ cursor.children) :
    cursor.index < child.index ∧ child.index + child.size ≤ cursor.index + cursor.size := by
  have range := range_of_mem_placeAll member
  rw [Node.sizeAll] at range
  rw [size, size, Node.size_eq cursor.node]
  rw [size] at range
  omega

theorem placeAll_pairwise (parent : Cursor) (before nodes : List Node) :
    (placeAll parent before nodes).Pairwise Precedes := by
  induction nodes generalizing before with
  | nil => exact .nil
  | cons node rest ih =>
      refine .cons (fun later member => ?_) (ih (node :: before))
      have range := (range_of_mem_placeAll member).1
      rw [Node.sizeAll] at range
      simp only [Precedes, index, index.indexIn, size] at range ⊢
      omega

theorem children_pairwise (cursor : Cursor) : cursor.children.Pairwise Precedes :=
  placeAll_pairwise cursor [] cursor.node.children

theorem Holds.range {cursor target : Cursor} (holds : cursor.Holds target) :
    cursor.index ≤ target.index ∧ target.index + target.size ≤ cursor.index + cursor.size := by
  induction holds with
  | here => exact ⟨Nat.le_refl _, Nat.le_refl _⟩
  | deeper member _ ih =>
      have range := range_of_child member
      omega

theorem Holds.strict {cursor target : Cursor} (holds : cursor.Holds target) (smaller : target.size < cursor.size) :
    cursor.StrictlyHolds target := by
  cases holds with
  | here => exact absurd smaller (Nat.lt_irrefl _)
  | deeper member rest => exact ⟨_, member, rest⟩

namespace StrictlyHolds

variable {cursor middle target : Cursor}

theorem holds (strict : cursor.StrictlyHolds target) : cursor.Holds target := by
  obtain ⟨child, member, rest⟩ := strict
  exact .deeper member rest

theorem namedChild (member : target ∈ cursor.namedChildren) : cursor.StrictlyHolds target :=
  ⟨target, (List.mem_filter.mp member).1, .here target⟩

theorem trans_holds (strict : cursor.StrictlyHolds middle) (rest : middle.Holds target) :
    cursor.StrictlyHolds target := by
  obtain ⟨child, member, upper⟩ := strict
  exact ⟨child, member, upper.trans rest⟩

theorem of_holds (upper : cursor.Holds middle) (strict : middle.StrictlyHolds target) :
    cursor.StrictlyHolds target := by
  cases upper with
  | here => exact strict
  | deeper member rest => exact ⟨_, member, rest.trans strict.holds⟩

theorem index_lt (strict : cursor.StrictlyHolds target) : cursor.index < target.index := by
  obtain ⟨child, member, rest⟩ := strict
  exact Nat.lt_of_lt_of_le (range_of_child member).1 rest.range.1

end StrictlyHolds

namespace Precedes

variable {a b inA inB : Cursor}

theorem within (precedes : a.Precedes b) (heldA : a.Holds inA) (heldB : b.Holds inB) : inA.Precedes inB := by
  have rangeA := heldA.range
  have rangeB := heldB.range
  rw [Precedes] at precedes ⊢
  omega

theorem index_lt (precedes : a.Precedes b) : a.index < b.index := by
  have positive := a.size_pos
  rw [Precedes] at precedes
  omega

theorem apart (precedes : a.Precedes b) : a.Apart b :=
  fun _ heldA heldB => Nat.lt_irrefl _ (precedes.within heldA heldB).index_lt

end Precedes

theorem same_child {parent a b target : Cursor} (memberA : a ∈ parent.children) (memberB : b ∈ parent.children)
    (heldA : a.Holds target) (heldB : b.Holds target) : a = b := by
  by_contra different
  have symmetric : Std.Symm Apart := ⟨fun _ _ apart target heldB heldA => apart target heldA heldB⟩
  have apart := (parent.children_pairwise.imp Precedes.apart).forall memberA memberB different
  exact apart target heldA heldB

end Cursor

namespace Grammar

def MembersOrdered (findings : List Finding) : Prop :=
  findings.Pairwise fun a b =>
    ∀ first second, a.members = some first → b.members = some second → first.Precedes second

namespace MembersOrdered

theorem leaves {findings : List Finding} (bare : ∀ finding ∈ findings, finding.members = none) :
    MembersOrdered findings :=
  List.pairwise_of_forall_mem_list fun _ memberA _ _ _ _ foundA => nomatch (bare _ memberA).symm.trans foundA

theorem single {findings : List Finding} (short : findings.length ≤ 1) : MembersOrdered findings := by
  cases findings with
  | nil => exact .nil
  | cons finding rest =>
      have alone : rest = [] := by simpa using short
      rw [alone]
      exact List.pairwise_singleton ..

theorem parts {α : Type} {items : List α} {part : α → Cursor} {make : α → Option Finding}
    (ordered : items.Pairwise fun a b => (part a).Precedes (part b))
    (inside : ∀ item finding members, make item = some finding → finding.members = some members →
      (part item).Holds members) : MembersOrdered (items.filterMap make) := by
  rw [MembersOrdered, List.pairwise_filterMap]
  refine ordered.imp fun {a b} precedes one madeA other madeB first second foundA foundB => ?_
  exact precedes.within (inside a one first madeA foundA) (inside b other second madeB foundB)

end MembersOrdered

theorem Java.membersOrdered (source : Source) (cursor : Cursor) (kind : Kind) (depth : Nat) :
    MembersOrdered (findings source cursor kind depth) := by
  rcases single_or_leaves source cursor kind depth with short | bare
  · exact .single short
  · exact .leaves bare

theorem Python.membersOrdered (source : Source) (cursor : Cursor) (kind : Kind) (depth : Nat) :
    MembersOrdered (findings source cursor kind depth) := by
  refine .single ?_
  unfold findings
  split <;> simp

theorem Swift.membersOrdered (source : Source) (cursor : Cursor) (kind : Kind) (depth : Nat) :
    MembersOrdered (findings source cursor kind depth) := by
  refine .single ?_
  rw [findings]
  split <;> simp

namespace Go

theorem typeDeclaration_ordered (source : Source) (cursor : Cursor) :
    MembersOrdered (typeDeclaration source cursor) := by
  have specs : (typeSpecs cursor).Pairwise Cursor.Precedes := (cursor.children_pairwise.filter _).filter _
  rw [typeDeclaration, specFindings, ← List.filterMap_eq_map]
  rw [← specs_of_documented source _ (typeSpecs cursor), List.pairwise_map] at specs
  refine MembersOrdered.parts specs fun pair finding members made found => ?_
  cases made
  dsimp only at found
  by_cases isAlias : pair.1.kind = "type_alias"
  · rw [if_pos isAlias] at found
    cases found
  · rw [if_neg isAlias] at found
    -- The place that the finding is given does not matter to its members.
    have covers : (typeSpec source pair.1 pair.1 pair.2).Covers source pair.1 pair.1 := typeSpec_covers (.here pair.1)
    exact covers.members members found

theorem membersOrdered (source : Source) (cursor : Cursor) (kind : Kind) (depth : Nat) :
    MembersOrdered (findings source cursor kind depth) := by
  by_cases isGroup : cursor.kind = "type_declaration"
  · simp only [findings, isGroup]
    exact typeDeclaration_ordered source cursor
  · exact .leaves (leaves_of_other isGroup)

end Go

namespace JavaScript

theorem declaredVariables_ordered (source : Source) (cursor : Cursor) (statement : Option Cursor) :
    MembersOrdered (declaredVariables source cursor statement) := by
  unfold declaredVariables
  dsimp only
  split
  · exact List.pairwise_singleton ..
  · have declarators : (cursor.childrenOfKind "variable_declarator").Pairwise Cursor.Precedes :=
      cursor.children_pairwise.filter _
    refine MembersOrdered.parts declarators fun declarator finding members made found => ?_
    rcases declarator?_cases made with ⟨kind, details, rfl⟩ | ⟨value, details, valueFound, _, _, rfl⟩
    · cases found
    · exact (Cursor.Holds.field? valueFound).trans (.field? found)

theorem membersOrdered (source : Source) (cursor : Cursor) (statement : Option Cursor) :
    MembersOrdered (declarations source cursor statement) := by
  cases form cursor with
  | imports is | classDeclaration is | method is | field is =>
      simp only [declarations, is]
      exact List.pairwise_singleton ..
  | exports is =>
      rcases declarations_of_export_cases is with ⟨declaration, found, made⟩ | ⟨label, value, _, made⟩ | made
      · rw [made]
        exact membersOrdered source declaration (some cursor)
      · rw [made]
        exact List.pairwise_singleton ..
      · rw [made]
        exact List.pairwise_singleton ..
  | function is =>
      rw [declarations_of_function is]
      exact List.pairwise_singleton ..
  | bindings is =>
      rw [declarations_of_declaredVariables is]
      exact declaredVariables_ordered source cursor statement
  | other no =>
      rw [declarations_of_other no]
      exact .nil
termination_by cursor.size
decreasing_by exact Cursor.size_of_field? found

end JavaScript

namespace TypeScript

theorem membersOrdered (source : Source) (cursor : Cursor) (kind : Kind) (depth : Nat) :
    MembersOrdered (findings source cursor kind depth) := by
  unfold findings
  dsimp only
  split
  · exact List.pairwise_singleton ..
  · exact JavaScript.membersOrdered source cursor none

end TypeScript

theorem membersOrdered_of_language (language : Language) (source : Source) (cursor : Cursor) (kind : Kind)
    (depth : Nat) : MembersOrdered (language.grammar.findings source cursor kind depth) := by
  cases language with
  | go => exact Go.membersOrdered source cursor kind depth
  | python => exact Python.membersOrdered source cursor kind depth
  | java => exact Java.membersOrdered source cursor kind depth
  | javaScript => exact JavaScript.membersOrdered source cursor none
  | typeScript | tsx => exact TypeScript.membersOrdered source cursor kind depth
  | swift => exact Swift.membersOrdered source cursor kind depth
  | c => exact .single (C.length_declarations source cursor kind)
  | cpp => exact .single (Cpp.length_declarations source cursor kind)

theorem MembersHeld.strict {grammar : Grammar} (held : grammar.MembersHeld) {source : Source} {cursor : Cursor}
    {kind : Kind} {depth : Nat} {finding : Finding} (made : finding ∈ grammar.findings source cursor kind depth)
    {members : Cursor} (found : finding.members = some members) : cursor.StrictlyHolds members :=
  (held source cursor kind depth finding made members found).strict
    (grammar.members_smaller source cursor kind depth finding made members found)

section Trace

variable (grammar : Grammar) (source : Source) (visibility : Visibility)

structure Trace where
  symbols : List Symbol := []
  visits : List Cursor := []

def tracedIn (depth : Nat) (parent : Cursor) : Trace :=
  let steps : List Trace := parent.namedChildren.attach.map fun child =>
    match grammar.role source child.val with
    | .skip => ⟨[], [child.val]⟩
    | .enter =>
        let inner := tracedIn depth child.val
        ⟨inner.symbols, child.val :: inner.visits⟩
    | .declares kind =>
        let inners : List (Declaration × Trace) :=
          (grammar.shownFindings source visibility depth child.val kind).attach.map fun finding =>
            (finding.val.declaration,
              match found : finding.val.members with
              | none => {}
              | some members => tracedIn (depth + 1) members)
        ⟨inners.map fun inner => ⟨inner.1, inner.2.symbols⟩, child.val :: inners.flatMap (·.2.visits)⟩
  ⟨steps.flatMap (·.symbols), steps.flatMap (·.visits)⟩
termination_by parent.size
decreasing_by
  · exact Cursor.size_of_namedChild child.property
  · exact Nat.lt_trans (grammar.members_smaller source child.val kind depth finding.val
      (List.mem_filter.mp finding.property).1 members found) (Cursor.size_of_namedChild child.property)

def tracedMembers (depth : Nat) (finding : Finding) : Trace :=
  match finding.members with
  | none => {}
  | some members => grammar.tracedIn source visibility (depth + 1) members

def tracedAt (depth : Nat) (child : Cursor) : Trace :=
  match grammar.role source child with
  | .skip => ⟨[], [child]⟩
  | .enter =>
      let inner := grammar.tracedIn source visibility depth child
      ⟨inner.symbols, child :: inner.visits⟩
  | .declares kind =>
      let shown := grammar.shownFindings source visibility depth child kind
      ⟨shown.map fun finding =>
          ⟨finding.declaration, (grammar.tracedMembers source visibility depth finding).symbols⟩,
        child :: shown.flatMap fun finding => (grammar.tracedMembers source visibility depth finding).visits⟩

theorem map_attach_of_eq {α β : Type} {items : List α} {f : { item // item ∈ items } → β} {g : α → β}
    (same : ∀ item, f item = g item.val) : items.attach.map f = items.map g := by
  rw [funext same]
  exact List.attach_map_val

theorem tracedIn_eq (depth : Nat) (parent : Cursor) :
    grammar.tracedIn source visibility depth parent =
      ⟨parent.namedChildren.flatMap fun child => (grammar.tracedAt source visibility depth child).symbols,
        parent.namedChildren.flatMap fun child => (grammar.tracedAt source visibility depth child).visits⟩ := by
  rw [tracedIn, map_attach_of_eq (g := grammar.tracedAt source visibility depth), List.flatMap_map, List.flatMap_map]
  intro child
  unfold tracedAt
  split
  · rfl
  · rfl
  · rename_i kind _
    rw [map_attach_of_eq
      (g := fun finding => (finding.declaration, grammar.tracedMembers source visibility depth finding))]
    · dsimp only
      rw [List.map_map, List.flatMap_map]
      rfl
    · intro finding
      unfold tracedMembers
      congr 1
      split <;> simp_all

end Trace

variable {grammar : Grammar} {source : Source} {visibility : Visibility}

section Steps

variable {depth : Nat} {child : Cursor}

theorem tracedAt_of_skip (role : grammar.role source child = .skip) :
    grammar.tracedAt source visibility depth child = ⟨[], [child]⟩ := by
  simp only [tracedAt, role]

theorem tracedAt_of_enter (role : grammar.role source child = .enter) :
    grammar.tracedAt source visibility depth child =
      ⟨(grammar.tracedIn source visibility depth child).symbols,
        child :: (grammar.tracedIn source visibility depth child).visits⟩ := by
  simp only [tracedAt, role]

theorem tracedAt_of_declares {kind : Kind} (role : grammar.role source child = .declares kind) :
    grammar.tracedAt source visibility depth child =
      ⟨(grammar.shownFindings source visibility depth child kind).map fun finding =>
          ⟨finding.declaration, (grammar.tracedMembers source visibility depth finding).symbols⟩,
        child :: (grammar.shownFindings source visibility depth child kind).flatMap fun finding =>
          (grammar.tracedMembers source visibility depth finding).visits⟩ := by
  simp only [tracedAt, role]

theorem tracedMembers_of_leaf {finding : Finding} (bare : finding.members = none) :
    grammar.tracedMembers source visibility depth finding = {} := by
  simp only [tracedMembers, bare]

theorem tracedMembers_of_members {finding : Finding} {members : Cursor} (found : finding.members = some members) :
    grammar.tracedMembers source visibility depth finding = grammar.tracedIn source visibility (depth + 1) members := by
  simp only [tracedMembers, found]

end Steps

theorem symbols_of_tracedIn (depth : Nat) (parent : Cursor) :
    (grammar.tracedIn source visibility depth parent).symbols = grammar.symbolsIn source visibility depth parent := by
  induction depth, parent using walk_induction grammar source with
  | step depth parent entered nested =>
      rw [tracedIn_eq, symbolsIn_eq]
      refine List.flatMap_congr fun child member => ?_
      cases role : grammar.role source child with
      | skip => rw [tracedAt_of_skip role, symbolsAt_of_skip role]
      | enter => rw [tracedAt_of_enter role, symbolsAt_of_enter role, entered child member role]
      | declares kind =>
          rw [tracedAt_of_declares role, symbolsAt_of_declares role]
          refine List.map_congr_left fun finding shown => ?_
          cases found : finding.members with
          | none =>
              rw [tracedMembers_of_leaf found]
              simp only [complete, found]
          | some members =>
              have within := (List.mem_filter.mp shown).1
              rw [tracedMembers_of_members found, nested child member kind role finding within members found]
              simp only [complete, found]

theorem members_of_visit {depth : Nat} {finding : Finding} {visit : Cursor}
    (visited : visit ∈ (grammar.tracedMembers source visibility depth finding).visits) :
    ∃ members, finding.members = some members ∧
      visit ∈ (grammar.tracedIn source visibility (depth + 1) members).visits := by
  cases found : finding.members with
  | none =>
      rw [tracedMembers_of_leaf found] at visited
      cases visited
  | some members =>
      rw [tracedMembers_of_members found] at visited
      exact ⟨members, rfl, visited⟩

theorem visit_cases {depth : Nat} {child visit : Cursor}
    (visited : visit ∈ (grammar.tracedAt source visibility depth child).visits) :
    visit = child ∨
    (grammar.role source child = .enter ∧ visit ∈ (grammar.tracedIn source visibility depth child).visits) ∨
    ∃ kind finding members, grammar.role source child = .declares kind ∧
      finding ∈ grammar.shownFindings source visibility depth child kind ∧ finding.members = some members ∧
      visit ∈ (grammar.tracedIn source visibility (depth + 1) members).visits := by
  cases role : grammar.role source child with
  | skip =>
      rw [tracedAt_of_skip role] at visited
      exact .inl (List.mem_singleton.mp visited)
  | enter =>
      rw [tracedAt_of_enter role] at visited
      exact (List.mem_cons.mp visited).imp_right fun later => .inl ⟨rfl, later⟩
  | declares kind =>
      rw [tracedAt_of_declares role] at visited
      refine (List.mem_cons.mp visited).imp_right fun later => .inr ?_
      obtain ⟨finding, shown, below⟩ := List.mem_flatMap.mp later
      obtain ⟨members, found, inside⟩ := members_of_visit below
      exact ⟨kind, finding, members, rfl, shown, found, inside⟩

theorem call_of_visit {depth : Nat} {parent visit : Cursor}
    (visited : visit ∈ (grammar.tracedIn source visibility depth parent).visits) :
    ∃ call, grammar.Calls source visibility (depth, parent) call ∧ visit ∈ call.2.namedChildren := by
  induction depth, parent using walk_induction grammar source with
  | step depth parent entered nested =>
      rw [tracedIn_eq] at visited
      obtain ⟨child, member, visitedAt⟩ := List.mem_flatMap.mp visited
      rcases visit_cases visitedAt with
        rfl | ⟨role, inside⟩ | ⟨kind, finding, members, role, shown, found, inside⟩
      · exact ⟨(depth, parent), .refl, member⟩
      · obtain ⟨call, calls, within⟩ := entered child member role inside
        exact ⟨call, .head (.enter member role) calls, within⟩
      · obtain ⟨call, calls, within⟩ :=
          nested child member kind role finding (List.mem_filter.mp shown).1 members found inside
        exact ⟨call, .head (.members member role shown found) calls, within⟩

theorem strictlyHolds_of_visit (held : grammar.MembersHeld) {depth : Nat} {parent visit : Cursor}
    (visited : visit ∈ (grammar.tracedIn source visibility depth parent).visits) : parent.StrictlyHolds visit := by
  obtain ⟨call, calls, member⟩ := call_of_visit visited
  exact .of_holds (holds_of_calls held calls) (.namedChild member)

theorem holds_of_visitAt (held : grammar.MembersHeld) {depth : Nat} {child visit : Cursor}
    (visited : visit ∈ (grammar.tracedAt source visibility depth child).visits) : child.Holds visit := by
  rcases visit_cases visited with rfl | ⟨_, inside⟩ | ⟨kind, finding, members, _, shown, found, inside⟩
  · exact .here visit
  · exact (strictlyHolds_of_visit held inside).holds
  · have made := (List.mem_filter.mp shown).1
    exact (held source child kind depth finding made members found).trans (strictlyHolds_of_visit held inside).holds

def Growing (visits : List Cursor) : Prop :=
  visits.Pairwise fun earlier later => earlier.index < later.index

theorem memberVisits_ordered (held : grammar.MembersHeld) {depth : Nat} {findings : List Finding}
    (ordered : MembersOrdered findings)
    (each : ∀ finding ∈ findings, ∀ members, finding.members = some members →
      Growing (grammar.tracedIn source visibility (depth + 1) members).visits) :
    Growing (findings.flatMap fun finding => (grammar.tracedMembers source visibility depth finding).visits) := by
  rw [Growing, List.pairwise_flatMap]
  constructor
  · intro finding member
    cases found : finding.members with
    | none =>
        rw [tracedMembers_of_leaf found]
        exact .nil
    | some members =>
        rw [tracedMembers_of_members found]
        exact each finding member members found
  · refine ordered.imp fun precedes a visitedA b visitedB => ?_
    obtain ⟨first, foundA, insideA⟩ := members_of_visit visitedA
    obtain ⟨second, foundB, insideB⟩ := members_of_visit visitedB
    have heldA := (strictlyHolds_of_visit held insideA).holds
    have heldB := (strictlyHolds_of_visit held insideB).holds
    exact ((precedes first second foundA foundB).within heldA heldB).index_lt

theorem visitsAt_ordered (held : grammar.MembersHeld) {depth : Nat} {child : Cursor}
    (ordered : ∀ kind, MembersOrdered (grammar.findings source child kind depth))
    (entered : grammar.role source child = .enter →
      Growing (grammar.tracedIn source visibility depth child).visits)
    (nested : ∀ kind, grammar.role source child = .declares kind →
      ∀ finding ∈ grammar.findings source child kind depth, ∀ members, finding.members = some members →
        Growing (grammar.tracedIn source visibility (depth + 1) members).visits) :
    Growing (grammar.tracedAt source visibility depth child).visits := by
  cases role : grammar.role source child with
  | skip =>
      rw [tracedAt_of_skip role]
      exact List.pairwise_singleton ..
  | enter =>
      rw [tracedAt_of_enter role]
      exact .cons (fun _ visited => (strictlyHolds_of_visit held visited).index_lt) (entered role)
  | declares kind =>
      rw [tracedAt_of_declares role]
      refine .cons (fun visit visited => ?_) (memberVisits_ordered held ((ordered kind).filter _) ?_)
      · obtain ⟨finding, shown, below⟩ := List.mem_flatMap.mp visited
        obtain ⟨members, found, inside⟩ := members_of_visit below
        have strict := held.strict (List.mem_filter.mp shown).1 found
        exact (strict.trans_holds (strictlyHolds_of_visit held inside).holds).index_lt
      · intro finding shown
        exact nested kind role finding (List.mem_filter.mp shown).1

theorem tracedIn_ordered (held : grammar.MembersHeld)
    (ordered : ∀ cursor kind depth, MembersOrdered (grammar.findings source cursor kind depth)) (depth : Nat)
    (parent : Cursor) : Growing (grammar.tracedIn source visibility depth parent).visits := by
  induction depth, parent using walk_induction grammar source with
  | step depth parent entered nested =>
      rw [tracedIn_eq, Growing, List.pairwise_flatMap]
      constructor
      · intro child member
        exact visitsAt_ordered held (fun kind => ordered child kind depth) (entered child member) (nested child member)
      · -- The visits that two children add stay inside the children, and these are listed one after the other.
        have children : parent.namedChildren.Pairwise Cursor.Precedes := parent.children_pairwise.filter _
        refine children.imp fun precedes a visitedA b visitedB => ?_
        exact (precedes.within (holds_of_visitAt held visitedA) (holds_of_visitAt held visitedB)).index_lt

section Calls

theorem size_of_continues {next now : Nat × Cursor} (continues : grammar.Continues source visibility next now) :
    next.2.size < now.2.size := by
  cases continues with
  | enter member _ => exact Cursor.size_of_namedChild member
  | members member _ shown found =>
      exact Nat.lt_trans (grammar.members_smaller _ _ _ _ _ (List.mem_filter.mp shown).1 _ found)
        (Cursor.size_of_namedChild member)

theorem continues_wellFounded (grammar : Grammar) (source : Source) (visibility : Visibility) :
    WellFounded (grammar.Continues source visibility) :=
  Subrelation.wf size_of_continues (InvImage.wf (fun call : Nat × Cursor => call.2.size) Nat.lt_wfRel.wf)

-- A call that comes to a node inside a child goes through that child: it enters the child, or goes on at the
-- members of something that the child shows.
theorem calls_through_child (held : grammar.MembersHeld) {depth : Nat} {parent child : Cursor} {call : Nat × Cursor}
    (calls : grammar.Calls source visibility (depth, parent) call) (member : child ∈ parent.namedChildren)
    (inside : child.Holds call.2) :
    (grammar.role source child = .enter ∧ grammar.Calls source visibility (depth, child) call) ∨
    ∃ kind finding members, grammar.role source child = .declares kind ∧
      finding ∈ grammar.shownFindings source visibility depth child kind ∧ finding.members = some members ∧
      grammar.Calls source visibility (depth + 1, members) call := by
  have childOf : ∀ {other : Cursor}, other ∈ parent.namedChildren → other.Holds call.2 → other = child :=
    fun memberToo holds =>
      Cursor.same_child (List.mem_filter.mp memberToo).1 (List.mem_filter.mp member).1 holds inside
  rcases Relation.ReflTransGen.cases_head calls with rfl | ⟨next, continues, rest⟩
  · have below := (Cursor.StrictlyHolds.namedChild member).trans_holds inside
    exact absurd below.index_lt (Nat.lt_irrefl _)
  · have ahead := holds_of_calls held rest
    cases continues with
    | enter memberToo role =>
        cases childOf memberToo ahead
        exact .inl ⟨role, rest⟩
    | members memberToo role shown found =>
        have within := held _ _ _ _ _ (List.mem_filter.mp shown).1 _ found
        cases childOf memberToo (within.trans ahead)
        exact .inr ⟨_, _, _, role, shown, found, rest⟩

theorem mem_visits_of_child {depth : Nat} {parent child visit : Cursor} (member : child ∈ parent.namedChildren)
    (visited : visit ∈ (grammar.tracedAt source visibility depth child).visits) :
    visit ∈ (grammar.tracedIn source visibility depth parent).visits := by
  rw [tracedIn_eq]
  exact List.mem_flatMap.mpr ⟨child, member, visited⟩

theorem self_visited (depth : Nat) (child : Cursor) :
    child ∈ (grammar.tracedAt source visibility depth child).visits := by
  unfold tracedAt
  split <;> exact List.mem_cons_self

theorem mem_visits_of_continues {next now : Nat × Cursor} {visit : Cursor}
    (continues : grammar.Continues source visibility next now)
    (visited : visit ∈ (grammar.tracedIn source visibility next.1 next.2).visits) :
    visit ∈ (grammar.tracedIn source visibility now.1 now.2).visits := by
  cases continues with
  | enter member role =>
      refine mem_visits_of_child member ?_
      rw [tracedAt_of_enter role]
      exact List.mem_cons_of_mem _ visited
  | members member role shown found =>
      refine mem_visits_of_child member ?_
      rw [tracedAt_of_declares role]
      refine List.mem_cons_of_mem _ (List.mem_flatMap.mpr ⟨_, shown, ?_⟩)
      rwa [tracedMembers_of_members found]

theorem mem_visits_of_calls {first call : Nat × Cursor} {visit : Cursor}
    (calls : grammar.Calls source visibility first call) (member : visit ∈ call.2.namedChildren) :
    visit ∈ (grammar.tracedIn source visibility first.1 first.2).visits := by
  induction calls using Relation.ReflTransGen.head_induction_on with
  | refl => exact mem_visits_of_child member (self_visited ..)
  | head continues _ ih => exact mem_visits_of_continues continues ih

end Calls

end Grammar

namespace Document

open Grammar (Continues Calls)

def trace (language : Language) (parsed content : ByteArray) (tree : Node) : Grammar.Trace :=
  language.grammar.tracedIn (source language parsed content) language.visibility 0 (.root tree)

theorem symbols_of_trace (language : Language) (parsed content : ByteArray) (tree : Node) :
    (trace language parsed content tree).symbols = (ofTree language parsed content tree).symbols :=
  Grammar.symbols_of_tracedIn 0 (.root tree)

/-- The walk ends, and it comes to no node twice: the members of the findings of one node stand below it and apart. -/
theorem walk_visits_once (language : Language) (parsed content : ByteArray) (tree : Node) :
    (∀ cursor kind depth,
      (∀ finding ∈ language.grammar.findings (source language parsed content) cursor kind depth,
        ∀ members, finding.members = some members → cursor.StrictlyHolds members) ∧
      (language.grammar.findings (source language parsed content) cursor kind depth).Pairwise fun one other =>
        ∀ a b, one.members = some a → other.members = some b → a.Apart b) ∧
    WellFounded (Continues language.grammar (source language parsed content) language.visibility) ∧
    (trace language parsed content tree).symbols = (ofTree language parsed content tree).symbols ∧
    (∀ visit, visit ∈ (trace language parsed content tree).visits ↔
      ∃ call, Calls language.grammar (source language parsed content) language.visibility (0, .root tree) call ∧
        visit ∈ call.2.namedChildren) ∧
    (trace language parsed content tree).visits.Nodup := by
  have held := Grammar.membersHeld language
  have ordered := Grammar.membersOrdered_of_language language (source language parsed content)
  refine ⟨fun cursor kind depth => ⟨fun finding made members => held.strict made, ?_⟩,
    Grammar.continues_wellFounded .., symbols_of_trace ..,
    fun visit => ⟨Grammar.call_of_visit, fun ⟨_, calls, member⟩ => Grammar.mem_visits_of_calls calls member⟩, ?_⟩
  · exact (ordered cursor kind depth).imp fun precedes a b foundA foundB => (precedes a b foundA foundB).apart
  · have growing : Grammar.Growing (trace language parsed content tree).visits :=
      Grammar.tracedIn_ordered held ordered 0 (.root tree)
    refine List.nodup_iff_pairwise_ne.mpr (growing.imp fun {a b} smaller same => ?_)
    rw [same] at smaller
    exact Nat.lt_irrefl _ smaller

end Document

end CodeOutline
