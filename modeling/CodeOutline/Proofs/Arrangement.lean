import CodeOutline.Language
import CodeOutline.Proofs.Positions
import CodeOutline.Proofs.Walk

set_option autoImplicit false

namespace CodeOutline

namespace Finding

structure Covers (source : Source) (first last : Cursor) (finding : Finding) : Prop where
  spans : finding.declaration.Spans source first.start last.stop
  members : ∀ members, finding.members = some members → last.Holds members

theorem leaf_covers (source : Source) (place : Cursor) (name : String) (kind : Kind) (details : Details) :
    (source.leaf place name kind details).Covers source place place :=
  ⟨Declaration.declare_spans source place name kind details, fun _ found => (Option.some_ne_none _ found.symm).elim⟩

end Finding

namespace Grammar

inductive Arranged (source : Source) (cursor : Cursor) (findings : List Finding) : Prop where
  | together (first last : Cursor) (inside : cursor.Holds first) (ends : first.Holds last)
      (covers : ∀ finding ∈ findings, finding.Covers source first last)
  | apart (pairs : List (Cursor × Finding)) (same : findings = pairs.map (·.2))
      (covers : ∀ pair ∈ pairs, cursor.Holds pair.1 ∧ pair.2.Covers source pair.1 pair.1)
      (ordered : cursor.node.nested → pairs.Pairwise fun a b => a.1.stop ≤ b.1.start)

namespace Arranged

variable {source : Source} {cursor : Cursor} {findings : List Finding}

theorem nil : Arranged source cursor [] :=
  .together cursor cursor (.here cursor) (.here cursor) (List.forall_mem_nil _)

theorem single {finding : Finding} (covers : finding.Covers source cursor cursor) :
    Arranged source cursor [finding] :=
  .together cursor cursor (.here cursor) (.here cursor) (List.forall_mem_singleton.mpr covers)

theorem holds (arranged : Arranged source cursor findings) {finding : Finding} (member : finding ∈ findings)
    {members : Cursor} (found : finding.members = some members) : cursor.Holds members := by
  cases arranged with
  | together first last inside ends covers =>
      exact (inside.trans ends).trans ((covers finding member).members members found)
  | apart pairs same covers _ =>
      rw [same] at member
      obtain ⟨pair, within, rfl⟩ := List.mem_map.mp member
      obtain ⟨inside, covered⟩ := covers pair within
      exact inside.trans (covered.members members found)

end Arranged

theorem field_covers (source : Source) (cursor : Cursor) (name : String) (kind : Kind) (details : Details)
    (label : String) :
    (⟨source.declare cursor name kind details, cursor.field? label⟩ : Finding).Covers source cursor cursor :=
  ⟨Declaration.declare_spans source cursor name kind details, fun _ found => .field? found⟩

namespace C

theorem holds_of_inner? {declarator inner : Cursor} (found : inner? declarator = some inner) :
    declarator.Holds inner := by
  rw [inner?] at found
  rcases Option.or_eq_some_iff.mp found with labelled | ⟨_, first⟩
  · exact .field? labelled
  · exact .firstNamed? first

theorem length_declarations (source : Source) (cursor : Cursor) (kind : Kind) :
    (declarations source cursor kind).length ≤ 1 := by
  rw [declarations]
  split <;> simp

theorem functionDefinition_covers (source : Source) (cursor : Cursor) (kind : Kind) :
    (functionDefinition source cursor kind).Covers source cursor cursor := by
  rw [functionDefinition]
  split
  · exact Finding.leaf_covers ..
  · exact Finding.leaf_covers ..

theorem declarations_cover (source : Source) (cursor : Cursor) (kind : Kind) :
    ∀ finding ∈ declarations source cursor kind, finding.Covers source cursor cursor := by
  intro finding member
  cases built_of_mem member with
  | line | enumerator => exact Finding.leaf_covers ..
  | function => exact functionDefinition_covers source cursor kind
  | record => exact field_covers ..

theorem arranged (source : Source) (cursor : Cursor) (kind : Kind) (depth : Nat) :
    Arranged source cursor (findings source cursor kind depth) :=
  .together cursor cursor (.here cursor) (.here cursor) (declarations_cover source cursor kind)

end C

namespace Cpp

theorem length_declarations (source : Source) (cursor : Cursor) (kind : Kind) :
    (declarations source cursor kind).length ≤ 1 := by
  cases form cursor with
  | nameSpace is | record is => simp [declarations, is]
  | template is =>
      rw [declarations_of_template is]
      cases found : templateSubject? cursor with
      | none => exact Nat.zero_le 1
      | some target =>
          have single := length_declarations source target kind
          simpa using single
  | line is => simp [declarations_of_line is]
  | shared no =>
      rw [declarations_of_other no]
      exact C.length_declarations source cursor kind
termination_by cursor.size
decreasing_by exact size_of_templateSubject? found

theorem underTemplate_covers {source : Source} {template target last : Cursor} {finding : Finding}
    (covers : finding.Covers source target last) :
    (underTemplate source template target finding).Covers source template last :=
  ⟨⟨rfl, rfl, covers.spans.endLine⟩, covers.members⟩

theorem declarations_cover (source : Source) (cursor : Cursor) (kind : Kind) :
    ∃ last, cursor.Holds last ∧ ∀ finding ∈ declarations source cursor kind, finding.Covers source cursor last := by
  cases form cursor with
  | nameSpace is | record is =>
      simp only [declarations, is]
      exact ⟨cursor, .here cursor, List.forall_mem_singleton.mpr (field_covers ..)⟩
  | template is =>
      rw [declarations_of_template is]
      cases found : templateSubject? cursor with
      | none => exact ⟨cursor, .here cursor, List.forall_mem_nil _⟩
      | some target =>
          obtain ⟨last, ends, covers⟩ := declarations_cover source target kind
          have inside := Cursor.Holds.namedChild (List.mem_filter.mp (List.mem_of_getLast? found)).1
          refine ⟨last, inside.trans ends, fun finding member => ?_⟩
          obtain ⟨inner, within, rfl⟩ := List.mem_map.mp member
          exact underTemplate_covers (covers inner within)
  | line is =>
      rw [declarations_of_line is]
      exact ⟨cursor, .here cursor, List.forall_mem_singleton.mpr (Finding.leaf_covers ..)⟩
  | shared no =>
      rw [declarations_of_other no]
      exact ⟨cursor, .here cursor, C.declarations_cover source cursor kind⟩
termination_by cursor.size
decreasing_by exact size_of_templateSubject? found

theorem arranged (source : Source) (cursor : Cursor) (kind : Kind) (depth : Nat) :
    Arranged source cursor (findings source cursor kind depth) := by
  obtain ⟨last, ends, covers⟩ := declarations_cover source cursor kind
  exact .together cursor last (.here cursor) ends covers

end Cpp

namespace Java

theorem single_or_leaves (source : Source) (cursor : Cursor) (kind : Kind) (depth : Nat) :
    (findings source cursor kind depth).length ≤ 1 ∨
      ∀ finding ∈ findings source cursor kind depth, finding.members = none := by
  by_cases isType : cursor.kind ∈ typeKinds
  · obtain ⟨declared, keyword, _, made⟩ := findings_of_type isType
    left
    rw [made cursor rfl]
    exact Nat.le_refl 1
  · right
    intro finding member
    cases built_of_mem member with
    | type is => exact absurd is isType
    | field _ among => exact members_of_fields among
    | path | method | constructor | enumConstant => rfl

theorem arranged (source : Source) (cursor : Cursor) (kind : Kind) (depth : Nat) :
    Arranged source cursor (findings source cursor kind depth) := by
  -- All declarators of a field share the place of the whole declaration.
  refine .together cursor cursor (.here cursor) (.here cursor) fun finding member => ?_
  cases built_of_mem member with
  | type => exact field_covers ..
  | field _ among =>
      obtain ⟨declarator, _, rfl⟩ := List.mem_map.mp among
      exact Finding.leaf_covers ..
  | path | method | constructor | enumConstant => exact Finding.leaf_covers ..

end Java

namespace Python

theorem arranged (source : Source) (cursor : Cursor) (kind : Kind) (depth : Nat) :
    Arranged source cursor (findings source cursor kind depth) := by
  simp only [findings]
  split
  · exact .single (Finding.leaf_covers ..)
  · exact .single (Finding.leaf_covers ..)
  · exact .single (field_covers ..)
  · exact .nil

end Python

namespace Swift

theorem arranged (source : Source) (cursor : Cursor) (kind : Kind) (depth : Nat) :
    Arranged source cursor (findings source cursor kind depth) := by
  refine .together cursor cursor (.here cursor) (.here cursor) fun finding member => ?_
  cases built_of_mem member with
  | type => exact field_covers ..
  | line | function | special | property | typeAlias | enumEntry => exact Finding.leaf_covers ..

end Swift

namespace Go

theorem leaves_of_other {source : Source} {cursor : Cursor} {kind : Kind} {depth : Nat}
    (notGroup : cursor.kind ≠ "type_declaration") :
    ∀ finding ∈ findings source cursor kind depth, finding.members = none := by
  intro finding member
  cases built_of_mem member with
  | type is => exact absurd is notGroup
  | value _ among => exact members_of_valueDeclaration among
  | package | imports | function | method | field | interface => rfl

theorem specs_of_documented (source : Source) (group : Option String) (specs : List Cursor) :
    (documented source group specs).map (·.1) = specs := by
  cases specs with
  | nil => rfl
  | cons first rest => simp [documented, Function.comp_def]

theorem specFindings_arranged {source : Source} {cursor : Cursor} {grouped : Bool} {specs : List Cursor}
    {finding : Cursor → Cursor → Option String → Finding} (inside : ∀ spec ∈ specs, cursor.Holds spec)
    (ordered : cursor.node.nested → specs.Pairwise fun a b => a.stop ≤ b.start)
    (covers : ∀ spec place documentation, place.Holds spec →
      (finding spec place documentation).Covers source place place) :
    Arranged source cursor (specFindings source cursor grouped specs finding) := by
  rw [specFindings]
  cases grouped with
  | false =>
      refine .together cursor cursor (.here cursor) (.here cursor) fun made member => ?_
      obtain ⟨pair, within, rfl⟩ := List.mem_map.mp member
      exact covers pair.1 cursor pair.2 (inside pair.1 (spec_of_documented within))
  | true =>
      refine .apart ((documented source (source.documentation? cursor) specs).map
        fun pair => (pair.1, finding pair.1 pair.1 pair.2)) ?_ ?_ ?_
      · rw [List.map_map]
        rfl
      · intro pair member
        obtain ⟨spec, within, rfl⟩ := List.mem_map.mp member
        exact ⟨inside spec.1 (spec_of_documented within), covers spec.1 spec.1 spec.2 (.here spec.1)⟩
      · intro nested
        have places := ordered nested
        rw [← specs_of_documented source (source.documentation? cursor) specs, List.pairwise_map] at places
        exact List.pairwise_map.mpr places

theorem typeSpec_covers {source : Source} {spec place : Cursor} {documentation : Option String}
    (inside : place.Holds spec) : (typeSpec source spec place documentation).Covers source place place := by
  refine ⟨⟨rfl, rfl, rfl⟩, fun members found => inside.trans ?_⟩
  simp only [typeSpec, typeForm] at found
  cases typeFound : spec.field? "type" with
  | none => simp [typeFound] at found
  | some type =>
      have typeHeld := Cursor.Holds.field? typeFound
      rw [typeFound] at found
      dsimp only at found
      by_cases isStruct : type.kind = "struct_type"
      · rw [if_pos isStruct] at found
        exact typeHeld.trans (.childOfKind? found)
      · by_cases isInterface : type.kind = "interface_type"
        · rw [if_neg isStruct, if_pos isInterface] at found
          cases found
          exact typeHeld
        · rw [if_neg isStruct, if_neg isInterface] at found
          cases found

theorem typeDeclaration_arranged (source : Source) (cursor : Cursor) :
    Arranged source cursor (typeDeclaration source cursor) := by
  rw [typeDeclaration]
  refine specFindings_arranged ?_ ?_ ?_
  · intro spec member
    exact .namedChild (List.mem_filter.mp member).1
  · intro nested
    exact ((Cursor.children_ordered nested).filter _).filter _
  · intro spec place documentation inside
    by_cases isAlias : spec.kind = "type_alias"
    · rw [if_pos isAlias]
      exact Finding.leaf_covers ..
    · rw [if_neg isAlias]
      exact typeSpec_covers inside

theorem holds_of_valueSpecsOf {child spec : Cursor} (member : spec ∈ valueSpecsOf child) : child.Holds spec := by
  rw [valueSpecsOf] at member
  split at member
  · rw [List.mem_singleton.mp member]
    exact .here child
  · split at member
    · exact .childrenOfKind member
    · cases member

theorem valueSpecsOf_ordered {child : Cursor} (nested : child.node.nested) :
    (valueSpecsOf child).Pairwise fun a b => a.stop ≤ b.start := by
  rw [valueSpecsOf]
  split
  · exact List.pairwise_singleton ..
  · split
    · exact (Cursor.children_ordered nested).filter _
    · exact .nil

theorem valueSpecs_ordered {cursor : Cursor} (nested : cursor.node.nested) :
    (valueSpecs cursor).Pairwise fun a b => a.stop ≤ b.start := by
  have nestedChild : ∀ child ∈ cursor.namedChildren, child.node.nested := fun child member =>
    ((Cursor.Holds.namedChild member).inside nested).2.2
  rw [valueSpecs]
  rw [List.pairwise_flatMap]
  refine ⟨fun child member => valueSpecsOf_ordered (nestedChild child member), ?_⟩
  have children : cursor.namedChildren.Pairwise fun a b => a.stop ≤ b.start :=
    (Cursor.children_ordered nested).filter _
  refine children.imp_of_mem fun {a b} memberA memberB apart first inA second inB => ?_
  have endsBefore := ((holds_of_valueSpecsOf inA).inside (nestedChild a memberA)).2.1
  have startsAfter := ((holds_of_valueSpecsOf inB).inside (nestedChild b memberB)).1
  omega

theorem valueDeclaration_arranged (source : Source) (cursor : Cursor) (kind : Kind) :
    Arranged source cursor (valueDeclaration source cursor kind) := by
  refine specFindings_arranged ?_ valueSpecs_ordered ?_
  · intro spec member
    obtain ⟨child, within, inside⟩ := List.mem_flatMap.mp member
    exact (Cursor.Holds.namedChild within).trans (holds_of_valueSpecsOf inside)
  · intro spec place documentation _
    exact Finding.leaf_covers ..

theorem arranged (source : Source) (cursor : Cursor) (kind : Kind) (depth : Nat) :
    Arranged source cursor (findings source cursor kind depth) := by
  cases form cursor with
  | package is | imports is | function is | method is | field is =>
      simp only [findings, is]
      exact .single (Finding.leaf_covers ..)
  | types is =>
      simp only [findings, is]
      exact typeDeclaration_arranged source cursor
  | values is =>
      rw [findings_of_valueDeclaration is]
      exact valueDeclaration_arranged source cursor kind
  | interface is =>
      rw [findings_of_interfaceLine is]
      exact .single (Finding.leaf_covers ..)
  | other no =>
      rw [findings_of_other no]
      exact .nil

end Go

namespace JavaScript

theorem field_covers_place {source : Source} {cursor holder : Cursor} {statement : Option Cursor} {name : String}
    {kind : Kind} {details : Details} {label : String} (inside : (place cursor statement).Holds holder) :
    (⟨source.declare (place cursor statement) name kind details, holder.field? label⟩ : Finding).Covers source
      (place cursor statement) (place cursor statement) :=
  ⟨⟨rfl, rfl, rfl⟩, fun _ found => inside.trans (.field? found)⟩

theorem declarator_covers {source : Source} {cursor declarator : Cursor} {statement : Option Cursor}
    {keyword : String} {finding : Finding} (made : declarator? source cursor statement keyword declarator = some finding)
    (inside : (place cursor statement).Holds declarator) :
    finding.Covers source (place cursor statement) (place cursor statement) := by
  rcases declarator?_cases made with ⟨kind, details, rfl⟩ | ⟨value, details, found, _, _, rfl⟩
  · exact Finding.leaf_covers ..
  · exact field_covers_place (inside.trans (.field? found))

theorem declaredVariables_cover (source : Source) (cursor : Cursor) (statement : Option Cursor)
    (inside : (place cursor statement).Holds cursor) :
    ∃ spot, (place cursor statement).Holds spot ∧
      ∀ finding ∈ declaredVariables source cursor statement, finding.Covers source spot spot := by
  unfold declaredVariables
  dsimp only
  split
  · exact ⟨cursor, inside, List.forall_mem_singleton.mpr (Finding.leaf_covers ..)⟩
  · refine ⟨place cursor statement, .here _, fun finding member => ?_⟩
    obtain ⟨declarator, within, made⟩ := List.mem_filterMap.mp member
    exact declarator_covers made (inside.trans (.childrenOfKind within))

theorem declarations_cover (source : Source) (cursor : Cursor) (statement : Option Cursor)
    (inside : (place cursor statement).Holds cursor) :
    ∃ spot, (place cursor statement).Holds spot ∧
      ∀ finding ∈ declarations source cursor statement, finding.Covers source spot spot := by
  cases form cursor with
  | imports is | method is | field is =>
      simp only [declarations, is]
      exact ⟨cursor, inside, List.forall_mem_singleton.mpr (Finding.leaf_covers ..)⟩
  | exports is =>
      rcases declarations_of_export_cases is with ⟨declaration, found, made⟩ | ⟨label, value, _, made⟩ | made
      · obtain ⟨spot, holds, covers⟩ := declarations_cover source declaration (some cursor) (.field? found)
        rw [made]
        exact ⟨spot, inside.trans holds, covers⟩
      · rw [made]
        exact ⟨cursor, inside, List.forall_mem_singleton.mpr (Finding.leaf_covers ..)⟩
      · rw [made]
        exact ⟨cursor, inside, List.forall_mem_singleton.mpr (Finding.leaf_covers ..)⟩
  | function is =>
      rw [declarations_of_function is]
      exact ⟨_, .here _, List.forall_mem_singleton.mpr (Finding.leaf_covers ..)⟩
  | classDeclaration is =>
      simp only [declarations, is]
      exact ⟨_, .here _, List.forall_mem_singleton.mpr (field_covers_place inside)⟩
  | bindings is =>
      rw [declarations_of_declaredVariables is]
      exact declaredVariables_cover source cursor statement inside
  | other no =>
      rw [declarations_of_other no]
      exact ⟨cursor, inside, List.forall_mem_nil _⟩
termination_by cursor.size
decreasing_by exact Cursor.size_of_field? found

theorem arranged (source : Source) (cursor : Cursor) (kind : Kind) (depth : Nat) :
    Arranged source cursor (findings source cursor kind depth) := by
  obtain ⟨spot, holds, covers⟩ := declarations_cover source cursor none (.here cursor)
  exact .together spot spot holds (.here spot) covers

end JavaScript

namespace TypeScript

open JavaScript (place field_covers_place)

theorem own_covers {source : Source} {cursor : Cursor} {statement : Option Cursor} {finding : Finding}
    (made : own? source cursor statement = some finding) (inside : (place cursor statement).Holds cursor) :
    ∃ spot, (place cursor statement).Holds spot ∧ finding.Covers source spot spot := by
  cases built_of_own? made with
  | interface | enum | nameSpace | classDeclaration => exact ⟨_, .here _, field_covers_place inside⟩
  | typeAlias | function => exact ⟨_, .here _, Finding.leaf_covers ..⟩
  | method | property | field | enumMember => exact ⟨cursor, inside, Finding.leaf_covers ..⟩

theorem arranged (source : Source) (cursor : Cursor) (kind : Kind) (depth : Nat) :
    Arranged source cursor (findings source cursor kind depth) := by
  unfold findings
  dsimp only
  split
  · rename_i finding own
    split at own
    · obtain ⟨declaration, found, made⟩ := Option.bind_eq_some_iff.mp own
      obtain ⟨spot, holds, covers⟩ := own_covers made (.field? found)
      exact .together spot spot holds (.here spot) (List.forall_mem_singleton.mpr covers)
    · obtain ⟨spot, holds, covers⟩ := own_covers own (.here cursor)
      exact .together spot spot holds (.here spot) (List.forall_mem_singleton.mpr covers)
  · exact JavaScript.arranged source cursor kind depth

end TypeScript

theorem arranged_of_language (language : Language) (source : Source) (cursor : Cursor) (kind : Kind) (depth : Nat) :
    Arranged source cursor (language.grammar.findings source cursor kind depth) := by
  cases language with
  | go => exact Go.arranged source cursor kind depth
  | python => exact Python.arranged source cursor kind depth
  | java => exact Java.arranged source cursor kind depth
  | javaScript => exact JavaScript.arranged source cursor kind depth
  | typeScript | tsx => exact TypeScript.arranged source cursor kind depth
  | swift => exact Swift.arranged source cursor kind depth
  | c => exact C.arranged source cursor kind depth
  | cpp => exact Cpp.arranged source cursor kind depth

theorem membersHeld (language : Language) : language.grammar.MembersHeld :=
  fun source cursor kind depth _ member _ found =>
    (arranged_of_language language source cursor kind depth).holds member found

end Grammar

end CodeOutline
