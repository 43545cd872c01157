import CodeOutline.Proofs.Frames
import CodeOutline.Proofs.Headers
import Mathlib.Data.List.Basic

set_option autoImplicit false

namespace CodeOutline

namespace Language

def braced : List Language :=
  [.go, .java, .c, .cpp]

theorem cases_of_braced {language : Language} (member : language ∈ braced) :
    language = .go ∨ language = .java ∨ language = .c ∨ language = .cpp := by
  simpa [braced] using member

def frame? (language : Language) (kind : String) : Option Frame :=
  match language with
  | .go => Grammar.Go.frame? kind
  | .java => Grammar.Java.frame? kind
  | .c => Grammar.C.frame? kind
  | .cpp => Grammar.Cpp.frame? kind
  | _ => none

def callable (language : Language) (cursor : Cursor) : Cursor :=
  match language with
  | .cpp => Grammar.Cpp.subject cursor
  | _ => cursor

-- In every declaration of the tree the block starts after everything else that is looked up.
def BlocksLast (language : Language) (tree : Cursor) : Prop :=
  ∀ cursor, tree.Holds cursor → ∀ frame, language.frame? cursor.kind = some frame → frame.BlockLast cursor

theorem BlocksLast.holds {language : Language} {tree cursor : Cursor} (last : language.BlocksLast tree)
    (inside : tree.Holds cursor) : language.BlocksLast cursor :=
  fun inner below => last inner (inside.trans below)

theorem holds_callable (language : Language) (cursor : Cursor) : cursor.Holds (language.callable cursor) := by
  cases language with
  | cpp => exact Grammar.Cpp.holds_subject cursor
  | go | python | java | javaScript | typeScript | tsx | swift | c => exact .here cursor

end Language

namespace Grammar

variable {language : Language} {source : Source} {other : ByteArray}

inductive Elides (language : Language) (source : Source) : Nat → Cursor → Cursor → Prop where
  | here {depth : Nat} {cursor : Cursor} {finding : Finding}
      (finds : language.grammar.Finds source depth cursor finding)
      (shown : language.visibility.shows finding.declaration.kind finding.declaration.name)
      (elided : finding.declaration.body = .elided) : Elides language source depth cursor (language.callable cursor)
  | entered {depth : Nat} {cursor child callable : Cursor} (role : language.grammar.role source cursor = .enter)
      (member : child ∈ cursor.namedChildren) (rest : Elides language source depth child callable) :
      Elides language source depth cursor callable
  | inside {depth : Nat} {cursor members child callable : Cursor} {finding : Finding}
      (finds : language.grammar.Finds source depth cursor finding)
      (shown : language.visibility.shows finding.declaration.kind finding.declaration.name)
      (found : finding.members = some members) (member : child ∈ members.namedChildren)
      (rest : Elides language source (depth + 1) child callable) : Elides language source depth cursor callable

def ElidedAt (language : Language) (source : Source) (depth : Nat) (cursor : Cursor) (offset : Nat) : Prop :=
  ∃ callable body, Elides language source depth cursor callable ∧ callable.field? "body" = some body ∧
    body.start ≤ offset ∧ offset < body.stop

def ElidedIn (language : Language) (source : Source) (depth : Nat) (parent : Cursor) (offset : Nat) : Prop :=
  ∃ child ∈ parent.namedChildren, ElidedAt language source depth child offset

theorem Elides.holds {depth : Nat} {cursor callable : Cursor} (elides : Elides language source depth cursor callable) :
    cursor.Holds callable := by
  induction elides with
  | here => exact language.holds_callable _
  | entered _ member _ ih => exact (Cursor.Holds.namedChild member).trans ih
  | inside finds _ found member _ ih =>
      obtain ⟨kind, _, made⟩ := finds
      have below := membersHeld language source _ kind _ _ made _ found
      exact below.trans ((Cursor.Holds.namedChild member).trans ih)

theorem Elides.role_ne_skip {depth : Nat} {cursor callable : Cursor}
    (elides : Elides language source depth cursor callable) : language.grammar.role source cursor ≠ .skip := by
  cases elides with
  | here finds =>
      obtain ⟨kind, role, _⟩ := finds
      simp [role]
  | entered role => simp [role]
  | inside finds =>
      obtain ⟨kind, role, _⟩ := finds
      simp [role]

theorem ElidedAt.inside {depth : Nat} {cursor : Cursor} {offset : Nat}
    (elided : ElidedAt language source depth cursor offset) (nested : cursor.node.nested) :
    cursor.start ≤ offset ∧ offset < cursor.stop := by
  obtain ⟨callable, body, elides, found, after, before⟩ := elided
  obtain ⟨lower, upper, _⟩ := (elides.holds.trans (.field? found)).inside nested
  omega

theorem ElidedIn.inside {depth : Nat} {parent : Cursor} {offset : Nat}
    (elided : ElidedIn language source depth parent offset) (nested : parent.node.nested) :
    parent.start ≤ offset ∧ offset < parent.stop := by
  obtain ⟨child, member, there⟩ := elided
  obtain ⟨lower, upper, nestedChild⟩ := (Cursor.Holds.namedChild member).inside nested
  have range := there.inside nestedChild
  omega

theorem ElidedIn.at_child {depth : Nat} {parent child : Cursor} {offset : Nat}
    (elided : ElidedIn language source depth parent offset) (nested : parent.node.nested)
    (member : child ∈ parent.children) (after : child.start ≤ offset) (before : offset < child.stop) :
    ElidedAt language source depth child offset := by
  obtain ⟨other, among, there⟩ := elided
  have range := there.inside ((Cursor.Holds.namedChild among).inside nested).2.2
  rcases Cursor.children_apart nested member (List.mem_filter.mp among).1 with rfl | first | second
  · exact there
  · omega
  · omega

-- The findings of one node do not meet: their members are apart, and where a body is left out there are none.
structure Parted (findings : List Finding) : Prop where
  members : ∀ a ∈ findings, ∀ b ∈ findings, ∀ left right, a.members = some left → b.members = some right →
    left = right ∨ left.stop ≤ right.start ∨ right.stop ≤ left.start
  elided : ∀ a ∈ findings, a.declaration.body = .elided → ∀ b ∈ findings, b.members = none

theorem Parted.of_leaves {findings : List Finding} (leaves : ∀ finding ∈ findings, finding.members = none) :
    Parted findings :=
  ⟨fun a member _ _ _ _ found _ => (Option.some_ne_none _ (found.symm.trans (leaves a member))).elim,
    fun _ _ _ b member => leaves b member⟩

theorem Parted.of_single {findings : List Finding} (short : findings.length ≤ 1)
    (opens : ∀ finding ∈ findings, finding.Opens) : Parted findings := by
  cases findings with
  | nil => exact .of_leaves (List.forall_mem_nil _)
  | cons finding rest =>
      have only : rest = [] := by simpa using short
      subst only
      have opensOnly := opens finding List.mem_cons_self
      constructor
      · intro a memberA b memberB left right foundA foundB
        rw [List.mem_singleton.mp memberA] at foundA
        rw [List.mem_singleton.mp memberB, foundA] at foundB
        exact .inl (Option.some.inj foundB)
      · intro a memberA elided b memberB
        rw [List.mem_singleton.mp memberA] at elided
        rw [List.mem_singleton.mp memberB]
        cases found : finding.members with
        | none => rfl
        | some members => exact absurd (elided.symm.trans (opensOnly members found)) (by decide)

theorem Java.parted (source : Source) (cursor : Cursor) (kind : Kind) (depth : Nat) :
    Parted (findings source cursor kind depth) := by
  rcases single_or_leaves source cursor kind depth with short | bare
  · exact .of_single short (findings_open source cursor kind depth)
  · exact .of_leaves bare

theorem Go.parted (source : Source) (cursor : Cursor) (kind : Kind) (depth : Nat) (nested : cursor.node.nested) :
    Parted (findings source cursor kind depth) := by
  by_cases isGroup : cursor.kind = "type_declaration"
  · simp only [findings, isGroup]
    constructor
    · intro a memberA b memberB left right foundA foundB
      obtain ⟨specA, withinA, membersA, _⟩ := typeFinding_of_mem memberA
      obtain ⟨specB, withinB, membersB, _⟩ := typeFinding_of_mem memberB
      rw [membersA] at foundA
      rw [membersB] at foundB
      have insideA := typeMembers?_inside nested withinA foundA
      have insideB := typeMembers?_inside nested withinB foundB
      rcases Cursor.children_apart nested (child_of_typeSpecs withinA) (child_of_typeSpecs withinB) with
        rfl | before | after
      · exact .inl (Option.some.inj (foundA.symm.trans foundB))
      · omega
      · omega
    · intro a member elided
      obtain ⟨_, _, _, notElided⟩ := typeFinding_of_mem member
      exact absurd elided notElided
  · exact .of_leaves (leaves_of_other isGroup)

theorem parted_of_braced (braced : language ∈ Language.braced) (source : Source) {cursor : Cursor}
    (nested : cursor.node.nested) (kind : Kind) (depth : Nat) :
    Parted (language.grammar.findings source cursor kind depth) := by
  rcases Language.cases_of_braced braced with rfl | rfl | rfl | rfl
  · exact Go.parted source cursor kind depth nested
  · exact Java.parted source cursor kind depth
  · exact .of_single (C.length_declarations source cursor kind) (C.declarations_open source cursor kind)
  · exact .of_single (Cpp.length_declarations source cursor kind) (Cpp.declarations_open source cursor kind)

theorem Cpp.role_of_comment {cursor : Cursor} (isComment : cursor.isComment) : role source cursor = .skip := by
  have named : Text.contains cursor.kind "comment" := isComment
  rw [role]
  split
  all_goals
    first
    | rfl
    | exact if_pos isComment
    | rename_i is
      rw [is] at named
      exact absurd named (by decide)

theorem role_of_comment (braced : language ∈ Language.braced) {cursor : Cursor} (isComment : cursor.isComment) :
    language.grammar.role source cursor = .skip := by
  rcases Language.cases_of_braced braced with rfl | rfl | rfl | rfl
  · exact if_pos isComment
  · exact if_pos isComment
  · exact if_pos isComment
  · exact Cpp.role_of_comment isComment

section Child

variable {depth : Nat} {child : Cursor} {kind : Kind} {offset : Nat}

theorem ElidedAt.of_enter (elided : ElidedAt language source depth child offset)
    (role : language.grammar.role source child = .enter) : ElidedIn language source depth child offset := by
  obtain ⟨callable, body, elides, rest⟩ := elided
  cases elides with
  | here finds =>
      obtain ⟨kind, declared, _⟩ := finds
      exact absurd (role.symm.trans declared) (by simp)
  | entered _ member deeper => exact ⟨_, member, callable, body, deeper, rest⟩
  | inside finds =>
      obtain ⟨kind, declared, _⟩ := finds
      exact absurd (role.symm.trans declared) (by simp)

theorem ElidedAt.of_declares (elided : ElidedAt language source depth child offset)
    (role : language.grammar.role source child = .declares kind) :
    ∃ finding ∈ language.grammar.findings source child kind depth,
      (finding.declaration.body = .elided ∧ ∃ body, (language.callable child).field? "body" = some body ∧
        body.start ≤ offset ∧ offset < body.stop) ∨
      ∃ members, finding.members = some members ∧ ElidedIn language source (depth + 1) members offset := by
  obtain ⟨callable, body, elides, rest⟩ := elided
  cases elides with
  | here finds _ left =>
      obtain ⟨other, declared, made⟩ := finds
      cases role.symm.trans declared
      exact ⟨_, made, .inl ⟨left, body, rest⟩⟩
  | entered entered => exact absurd (role.symm.trans entered) (by simp)
  | inside finds _ found member deeper =>
      obtain ⟨other, declared, made⟩ := finds
      cases role.symm.trans declared
      exact ⟨_, made, .inr ⟨_, found, _, member, callable, body, deeper, rest⟩⟩

-- Whatever is left out at a declaring node is hidden by one of its findings.
theorem ElidedAt.hidden (elided : ElidedAt language source depth child offset) (nested : child.node.nested)
    (role : language.grammar.role source child = .declares kind) :
    ∃ finding ∈ language.grammar.findings source child kind depth, ∃ hidden,
      finding.hidden? (language.callable child) = some hidden ∧ hidden.start ≤ offset ∧ offset < hidden.stop := by
  obtain ⟨finding, made, ⟨left, body, found, range⟩ | ⟨members, found, below⟩⟩ := elided.of_declares role
  · exact ⟨finding, made, body, by rw [Finding.hidden?, if_pos left, found], range⟩
  · have block := findings_open language ⟨kind, role, made⟩ members found
    have inside := membersHeld language source child kind depth finding made members found
    refine ⟨finding, made, members, ?_, below.inside (inside.inside nested).2.2⟩
    rw [Finding.hidden?, block, found]
    rfl

theorem ElidedAt.in_members (braced : language ∈ Language.braced)
    (elided : ElidedAt language source depth child offset) (nested : child.node.nested)
    (role : language.grammar.role source child = .declares kind) {finding : Finding}
    (made : finding ∈ language.grammar.findings source child kind depth) {members : Cursor}
    (found : finding.members = some members) (after : members.start ≤ offset) (before : offset < members.stop) :
    ElidedIn language source (depth + 1) members offset := by
  have parted := parted_of_braced braced source nested kind depth
  obtain ⟨other, madeOther, ⟨left, _⟩ | ⟨others, foundOther, below⟩⟩ := elided.of_declares role
  · exact (Option.some_ne_none _ (found.symm.trans (parted.elided other madeOther left finding made))).elim
  · have held := membersHeld language source child kind depth other madeOther others foundOther
    have range := below.inside (held.inside nested).2.2
    rcases parted.members finding made other madeOther members others found foundOther with rfl | first | second
    · exact below
    · omega
    · omega

end Child

structure AgreesIn (language : Language) (source : Source) (other : ByteArray) (depth : Nat) (parent : Cursor) :
    Prop where
  size : source.content.size = other.size
  bytes : ∀ offset, parent.start ≤ offset → offset < parent.stop → ¬ ElidedIn language source depth parent offset →
    source.content.data[offset]? = other.data[offset]?

namespace AgreesIn

variable {depth : Nat} {parent child : Cursor} {kind : Kind}

theorem bytes_of_child (agrees : AgreesIn language source other depth parent) (nested : parent.node.nested)
    (member : child ∈ parent.children) {offset : Nat} (after : child.start ≤ offset) (before : offset < child.stop)
    (shown : ¬ ElidedAt language source depth child offset) :
    source.content.data[offset]? = other.data[offset]? := by
  obtain ⟨lower, upper, _⟩ := (Cursor.Holds.child member).inside nested
  refine agrees.bytes offset (by omega) (by omega) fun elided => ?_
  exact shown (elided.at_child nested member after before)

theorem entered (agrees : AgreesIn language source other depth parent) (nested : parent.node.nested)
    (member : child ∈ parent.children) (role : language.grammar.role source child = .enter) :
    AgreesIn language source other depth child :=
  ⟨agrees.size, fun _ after before shown =>
    agrees.bytes_of_child nested member after before fun elided => shown (elided.of_enter role)⟩

theorem members (braced : language ∈ Language.braced) (agrees : AgreesIn language source other depth parent)
    (nested : parent.node.nested) (member : child ∈ parent.children)
    (role : language.grammar.role source child = .declares kind) {finding : Finding}
    (made : finding ∈ language.grammar.findings source child kind depth) {members : Cursor}
    (found : finding.members = some members) : AgreesIn language source other (depth + 1) members := by
  have nestedChild := ((Cursor.Holds.child member).inside nested).2.2
  have held := membersHeld language source child kind depth finding made members found
  obtain ⟨lower, upper, _⟩ := held.inside nestedChild
  refine ⟨agrees.size, fun offset after before shown => ?_⟩
  refine agrees.bytes_of_child nested member (by omega) (by omega) fun elided => ?_
  exact shown (elided.in_members braced nestedChild role made found after before)

-- The walk does not go into comments, so they are shown as a whole.
theorem comments (braced : language ∈ Language.braced) (agrees : AgreesIn language source other depth parent)
    (nested : parent.node.nested) (member : child ∈ parent.children) : source.KeepsComments other child := by
  intro comment earlier isComment
  obtain ⟨sibling, among, rfl, _⟩ := Cursor.sibling_of_before nested member earlier
  refine ⟨agrees.size, fun offset after before => ?_⟩
  refine agrees.bytes_of_child nested among after before fun elided => ?_
  obtain ⟨_, _, elides, _⟩ := elided
  exact elides.role_ne_skip (role_of_comment braced isComment)

end AgreesIn

end Grammar

namespace Document

end Document

end CodeOutline
