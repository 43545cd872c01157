import CodeOutline.Document
import CodeOutline.Proofs.Arrangement

set_option autoImplicit false

namespace CodeOutline

namespace Declaration

-- Of two siblings the first starts no later; they begin and end together, or the second begins on the last
-- line of the first or below it.
def Precedes (a b : Declaration) : Prop :=
  a.StartsBy b ∧
    (a.startLine = b.startLine ∧ a.startColumn = b.startColumn ∧ a.endLine = b.endLine ∨ a.endLine ≤ b.startLine)

def Encloses (outer inner : Declaration) : Prop :=
  outer.StartsBy inner ∧ inner.endLine ≤ outer.endLine

def Between (source : Source) (low high : Nat) (declaration : Declaration) : Prop :=
  ∃ first last, low ≤ first ∧ first ≤ last ∧ last ≤ high ∧ declaration.Spans source first last

variable {source : Source} {limit low middle high : Nat} {a b : Declaration}

theorem Between.wider {start stop : Nat} (between : a.Between source start stop) (lower : low ≤ start)
    (upper : stop ≤ high) : a.Between source low high := by
  obtain ⟨first, last, startsAfter, ordered, endsBefore, spans⟩ := between
  exact ⟨first, last, Nat.le_trans lower startsAfter, ordered, Nat.le_trans endsBefore upper, spans⟩

theorem precedes_of_apart (fits : source.Fits limit) (left : a.Between source low middle)
    (right : b.Between source middle high) (within : high ≤ limit) : a.Precedes b := by
  obtain ⟨first, last, _, ordered, endsBefore, spansA⟩ := left
  obtain ⟨start, stop, startsAfter, orderedB, endsBy, spansB⟩ := right
  exact ⟨spansA.startsBy spansB fits (by omega) (by omega), .inr (spansA.endsBefore spansB fits (by omega) (by omega))⟩

theorem precedes_of_same {first last : Nat} (fits : source.Fits limit) (left : a.Spans source first last)
    (right : b.Spans source first last) (within : first ≤ limit) : a.Precedes b := by
  refine ⟨left.startsBy right fits (Nat.le_refl first) within, .inl ⟨?_, ?_, ?_⟩⟩
  · rw [left.startLine, right.startLine]
  · rw [left.startColumn, right.startColumn]
  · rw [left.endLine, right.endLine]

theorem encloses_of_between {first last : Nat} (fits : source.Fits limit) (outer : a.Spans source first last)
    (inner : b.Between source first last) (within : last ≤ limit) : a.Encloses b := by
  obtain ⟨start, stop, startsAfter, ordered, endsBefore, spans⟩ := inner
  exact ⟨outer.startsBy spans fits startsAfter (by omega), spans.endsBy outer fits endsBefore within⟩

end Declaration

namespace Grammar

variable {source : Source} {limit : Nat}

theorem between_of_covers {cursor first last : Cursor} {finding : Finding} (nested : cursor.node.nested)
    (inside : cursor.Holds first) (ends : first.Holds last) (covers : finding.Covers source first last) :
    finding.declaration.Between source cursor.start cursor.stop := by
  obtain ⟨startsAfter, _, nestedFirst⟩ := inside.inside nested
  obtain ⟨_, endsBefore, nestedLast⟩ := (inside.trans ends).inside nested
  have ordered := (ends.inside nestedFirst).1
  have width := Node.start_le_stop last.node nestedLast
  exact ⟨first.start, last.stop, startsAfter, Nat.le_trans ordered width, endsBefore, covers.spans⟩

namespace Arranged

variable {cursor : Cursor} {findings : List Finding}

theorem between (arranged : Arranged source cursor findings) (nested : cursor.node.nested) :
    ∀ finding ∈ findings, finding.declaration.Between source cursor.start cursor.stop := by
  intro finding member
  cases arranged with
  | together first last inside ends covers => exact between_of_covers nested inside ends (covers finding member)
  | apart pairs same covers _ =>
      rw [same] at member
      obtain ⟨pair, within, rfl⟩ := List.mem_map.mp member
      obtain ⟨inside, covered⟩ := covers pair within
      exact between_of_covers nested inside (.here _) covered

theorem ordered (arranged : Arranged source cursor findings) (nested : cursor.node.nested)
    (fits : source.Fits limit) (within : cursor.stop ≤ limit) :
    findings.Pairwise fun a b => a.declaration.Precedes b.declaration := by
  cases arranged with
  | together first last inside ends covers =>
      obtain ⟨_, endsBefore, nestedFirst⟩ := inside.inside nested
      have width := Node.start_le_stop first.node nestedFirst
      apply List.pairwise_of_forall_mem_list
      intro a memberA b memberB
      exact Declaration.precedes_of_same fits (covers a memberA).spans (covers b memberB).spans
        (Nat.le_trans width (Nat.le_trans endsBefore within))
  | apart pairs same covers ordered =>
      rw [same, List.pairwise_map]
      refine (ordered nested).imp_of_mem fun {a b} memberA memberB apart => ?_
      obtain ⟨insideA, coversA⟩ := covers a memberA
      obtain ⟨insideB, coversB⟩ := covers b memberB
      obtain ⟨_, _, nestedA⟩ := insideA.inside nested
      obtain ⟨_, endsBefore, nestedB⟩ := insideB.inside nested
      have left := between_of_covers nestedA (.here _) (.here _) coversA
      have right := between_of_covers nestedB (.here _) (.here _) coversB
      exact Declaration.precedes_of_apart fits left (right.wider apart (Nat.le_refl _)) (Nat.le_trans endsBefore within)

theorem members_between (arranged : Arranged source cursor findings) (nested : cursor.node.nested)
    {finding : Finding} (member : finding ∈ findings) {members : Cursor} (found : finding.members = some members) :
    ∃ first last, last ≤ cursor.stop ∧ finding.declaration.Spans source first last ∧
      first ≤ members.start ∧ members.stop ≤ last := by
  cases arranged with
  | together first last inside ends covers =>
      have covered := covers finding member
      obtain ⟨_, _, nestedFirst⟩ := inside.inside nested
      obtain ⟨_, endsBefore, nestedLast⟩ := (inside.trans ends).inside nested
      have startsAfter := (ends.inside nestedFirst).1
      have membersInside := (covered.members members found).inside nestedLast
      exact ⟨first.start, last.stop, endsBefore, covered.spans, Nat.le_trans startsAfter membersInside.1,
        membersInside.2.1⟩
  | apart pairs same covers _ =>
      rw [same] at member
      obtain ⟨pair, within, rfl⟩ := List.mem_map.mp member
      obtain ⟨inside, covered⟩ := covers pair within
      obtain ⟨_, endsBefore, nestedPlace⟩ := inside.inside nested
      have membersInside := (covered.members members found).inside nestedPlace
      exact ⟨pair.1.start, pair.1.stop, endsBefore, covered.spans, membersInside.1, membersInside.2.1⟩

end Arranged

-- The invariant of the walk: below a nested node, symbols lie inside its range and in order. Members are
-- not looked at here; they are symbols below a node of their own.
theorem symbolsIn_ordered (language : Language) (visibility : Visibility) (fits : source.Fits limit) (depth : Nat)
    (parent : Cursor) (nested : parent.node.nested) (within : parent.stop ≤ limit) :
    (∀ symbol ∈ language.grammar.symbolsIn source visibility depth parent,
      symbol.toDeclaration.Between source parent.start parent.stop) ∧
    (language.grammar.symbolsIn source visibility depth parent).Pairwise
      fun a b => a.toDeclaration.Precedes b.toDeclaration := by
  induction depth, parent using walk_induction language.grammar source with
  | step depth parent entered _ =>
      have atChild : ∀ child ∈ parent.namedChildren,
          (∀ symbol ∈ language.grammar.symbolsAt source visibility depth child,
            symbol.toDeclaration.Between source child.start child.stop) ∧
          (language.grammar.symbolsAt source visibility depth child).Pairwise
            fun a b => a.toDeclaration.Precedes b.toDeclaration := by
        intro child member
        obtain ⟨_, endsBefore, nestedChild⟩ := (Cursor.Holds.namedChild member).inside nested
        have withinChild := Nat.le_trans endsBefore within
        cases role : language.grammar.role source child with
        | skip =>
            rw [symbolsAt_of_skip role]
            exact ⟨List.forall_mem_nil _, .nil⟩
        | enter =>
            rw [symbolsAt_of_enter role]
            exact entered child member role nestedChild withinChild
        | declares kind =>
            have arranged := arranged_of_language language source child kind depth
            rw [symbolsAt_of_declares role]
            constructor
            · intro symbol made
              obtain ⟨finding, shown, rfl⟩ := List.mem_map.mp made
              exact arranged.between nestedChild finding (List.mem_filter.mp shown).1
            · rw [List.pairwise_map]
              exact (arranged.ordered nestedChild fits withinChild).filter _
      rw [symbolsIn_eq]
      constructor
      · intro symbol made
        obtain ⟨child, member, madeThere⟩ := List.mem_flatMap.mp made
        obtain ⟨startsAfter, endsBefore, _⟩ := (Cursor.Holds.namedChild member).inside nested
        exact ((atChild child member).1 symbol madeThere).wider startsAfter endsBefore
      · rw [List.pairwise_flatMap]
        refine ⟨fun child member => (atChild child member).2, ?_⟩
        have children : parent.namedChildren.Pairwise fun a b => a.stop ≤ b.start :=
          (Cursor.children_ordered nested).filter _
        refine children.imp_of_mem fun {a b} memberA memberB apart first madeA second madeB => ?_
        have endsBefore := ((Cursor.Holds.namedChild memberB).inside nested).2.1
        have left := (atChild a memberA).1 first madeA
        have right := (atChild b memberB).1 second madeB
        exact Declaration.precedes_of_apart fits left (right.wider apart (Nat.le_refl _))
          (Nat.le_trans endsBefore within)

theorem members_ordered (language : Language) {visibility : Visibility} (fits : source.Fits limit) {depth : Nat}
    (parent : Cursor) (nested : parent.node.nested) (within : parent.stop ≤ limit) {symbol : Symbol}
    (among : Symbol.Among (language.grammar.symbolsIn source visibility depth parent) symbol) :
    symbol.children.Pairwise (fun a b => a.toDeclaration.Precedes b.toDeclaration) ∧
      ∀ child ∈ symbol.children, symbol.toDeclaration.Encloses child.toDeclaration := by
  obtain ⟨level, cursor, finding, holds, ⟨kind, _, made⟩, rfl⟩ := finding_of_among (membersHeld language) among
  obtain ⟨_, endsBefore, nestedCursor⟩ := holds.inside nested
  cases found : finding.members with
  | none =>
      rw [children_of_leaf found]
      exact ⟨.nil, List.forall_mem_nil _⟩
  | some members =>
      have arranged := arranged_of_language language source cursor kind level
      obtain ⟨first, last, endsInside, spans, startsAfter, endsMembers⟩ :=
        arranged.members_between nestedCursor made found
      obtain ⟨_, stopMembers, nestedMembers⟩ := (arranged.holds made found).inside nestedCursor
      rw [children_of_complete found]
      obtain ⟨inside, ordered⟩ := symbolsIn_ordered language visibility fits (level + 1) members nestedMembers
        (Nat.le_trans stopMembers (Nat.le_trans endsBefore within))
      refine ⟨ordered, fun child member => ?_⟩
      exact Declaration.encloses_of_between fits spans ((inside child member).wider startsAfter endsMembers) (by omega)

end Grammar

namespace Document

/-- The text is one whose rows and columns fit into 32 bits. -/
theorem extract_in_source_order {tag : String} {language : Language}
    (supported : Language.ofTag? tag = some language) (parsed content : ByteArray) (tree : Node)
    (fits : (source language parsed content).Fits parsed.size) (within : tree.stop ≤ parsed.size)
    (nested : tree.nested) :
    ∃ document, extract tag parsed content tree = .ok document ∧
      document.symbols.Pairwise (fun a b => a.toDeclaration.Precedes b.toDeclaration) ∧
      ∀ symbol, Symbol.Among document.symbols symbol →
        symbol.children.Pairwise (fun a b => a.toDeclaration.Precedes b.toDeclaration) ∧
          ∀ child ∈ symbol.children, symbol.toDeclaration.Encloses child.toDeclaration := by
  refine ⟨_, extract_of_tag supported parsed content tree, ?_, fun symbol among => ?_⟩
  · exact (Grammar.symbolsIn_ordered language language.visibility fits 0 (.root tree) nested within).2
  · exact Grammar.members_ordered language fits (.root tree) nested within among

def typeGroupText : ByteArray :=
  "type (\n\tA struct \x7b\n\t\tx int\n\t\x7d\n\tB int\n)\n".toUTF8

def typeGroup : Node :=
  .plain "source_file" none 0 39
    [.plain "type_declaration" none 0 38
      [.plain "type_spec" none 8 29
        [.plain "type_identifier" (some "name") 8 9 [],
          .plain "struct_type" (some "type") 10 29
            [.plain "field_declaration_list" none 17 29
              [.plain "field_declaration" none 21 26
                [.plain "field_identifier" (some "name") 21 22 [], .plain "type_identifier" (some "type") 23 26 []]]]],
        .plain "type_spec" none 31 36
          [.plain "type_identifier" (some "name") 31 32 [], .plain "type_identifier" (some "type") 33 36 []]]]

theorem typeGroup_in_source_order :
    (ofTree .go typeGroupText typeGroupText typeGroup).count = 3 ∧
    ∃ document, extract "golang" typeGroupText typeGroupText typeGroup = .ok document ∧
      document.symbols.Pairwise (fun a b => a.toDeclaration.Precedes b.toDeclaration) ∧
      ∀ symbol, Symbol.Among document.symbols symbol →
        symbol.children.Pairwise (fun a b => a.toDeclaration.Precedes b.toDeclaration) ∧
          ∀ child ∈ symbol.children, symbol.toDeclaration.Encloses child.toDeclaration := by
  have supported : Language.ofTag? "golang" = some .go := by decide
  have fits : (source .go typeGroupText typeGroupText).Fits typeGroupText.size :=
    Source.fits_of_size _ _ (by decide)
  exact ⟨by decide +kernel, extract_in_source_order supported _ _ typeGroup fits (by decide) (by decide)⟩

end Document

end CodeOutline
