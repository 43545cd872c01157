import CodeOutline.Document
import CodeOutline.Proofs.Grafting
import CodeOutline.Proofs.Walk
import Mathlib.Data.List.Forall2

set_option autoImplicit false

namespace CodeOutline

open Grammar (Cpp.isClassMember Python.decorated?)

def parentKinds : List String :=
  ["decorated_definition", "enum_body", "field_declaration_list", "template_declaration"]

-- Two places that no grammar tells apart.
structure Context.Alike (a b : Context) : Prop where
  documentation : ∀ (source : Source) (node : Node), source.documentation? ⟨node, a⟩ = source.documentation? ⟨node, b⟩
  under : ∀ kind ∈ parentKinds, ∀ node, Cursor.isUnder ⟨node, a⟩ kind = Cursor.isUnder ⟨node, b⟩ kind
  classMember : ∀ node, Cpp.isClassMember ⟨node, a⟩ = Cpp.isClassMember ⟨node, b⟩
  undecorated : ∀ node, Cursor.isUnder ⟨node, a⟩ "decorated_definition" = false

namespace Context.Alike

variable {a b : Context}

theorem documentation_graft (alike : a.Alike b) (source : Source) (cursor : Cursor) :
    source.documentation? (cursor.graft a) = source.documentation? (cursor.graft b) := by
  obtain ⟨node, context⟩ := cursor
  cases context with
  | top => exact alike.documentation source node
  | under parent above before => rfl

theorem declare_graft (alike : a.Alike b) (source : Source) (cursor : Cursor) (name : String) (kind : Kind)
    (details : Details) :
    source.declare (cursor.graft a) name kind details = source.declare (cursor.graft b) name kind details := by
  simp only [Source.declare, Cursor.start_graft, Cursor.stop_graft, alike.documentation_graft]

theorem leaf_graft (alike : a.Alike b) (source : Source) (cursor : Cursor) (name : String) (kind : Kind)
    (details : Details) :
    source.leaf (cursor.graft a) name kind details = source.leaf (cursor.graft b) name kind details := by
  simp only [Source.leaf, alike.declare_graft]

theorem isUnder_graft (alike : a.Alike b) (cursor : Cursor) {kind : String} (asked : kind ∈ parentKinds) :
    (cursor.graft a).isUnder kind = (cursor.graft b).isUnder kind := by
  obtain ⟨node, context⟩ := cursor
  cases context with
  | top => exact alike.under kind asked node
  | under parent above before => rfl

theorem isClassMember_graft (alike : a.Alike b) (cursor : Cursor) :
    Cpp.isClassMember (cursor.graft a) = Cpp.isClassMember (cursor.graft b) := by
  obtain ⟨node, context⟩ := cursor
  cases context with
  | top => exact alike.classMember node
  | under parent above before =>
      have outer := alike.isUnder_graft ⟨parent, above⟩ (show "field_declaration_list" ∈ parentKinds by decide)
      change (if parent.kind = _ then (Cursor.graft a ⟨parent, above⟩).isUnder _ else parent.kind == _) =
        (if parent.kind = _ then (Cursor.graft b ⟨parent, above⟩).isUnder _ else parent.kind == _)
      rw [outer]

theorem right_undecorated (alike : a.Alike b) (node : Node) :
    Cursor.isUnder ⟨node, b⟩ "decorated_definition" = false := by
  rw [← alike.under _ (by decide) node]
  exact alike.undecorated node

end Context.Alike

structure Finding.Alike (a b : Context) (left right : Finding) : Prop where
  declaration : left.declaration = right.declaration
  members : ∃ members : Option Cursor, left.members = members.map (Cursor.graft a) ∧
    right.members = members.map (Cursor.graft b)

namespace Finding

variable {a b : Context}

theorem alike_of_leaf {left right : Finding} (same : left = right) (bare : right.members = none) : left.Alike a b right :=
  ⟨by rw [same], none, by rw [same, bare]; rfl, bare⟩

theorem alike_of_field (alike : a.Alike b) (source : Source) (place cursor : Cursor) (name : String) (kind : Kind)
    (details : Details) (label : String) :
    Alike a b ⟨source.declare (place.graft a) name kind details, (cursor.graft a).field? label⟩
      ⟨source.declare (place.graft b) name kind details, (cursor.graft b).field? label⟩ :=
  ⟨alike.declare_graft source place name kind details, cursor.field? label, Cursor.field?_graft a cursor label,
    Cursor.field?_graft b cursor label⟩

end Finding

namespace Grammar

structure Blind (grammar : Grammar) (a b : Context) : Prop where
  role : ∀ (source : Source) (cursor : Cursor),
    grammar.role source (cursor.graft a) = grammar.role source (cursor.graft b)
  findings : ∀ (source : Source) (cursor : Cursor) (kind : Kind) (depth : Nat), List.Forall₂ (Finding.Alike a b)
    (grammar.findings source (cursor.graft a) kind depth) (grammar.findings source (cursor.graft b) kind depth)

variable {a b : Context}

theorem leaf_alike {left right : Finding} (same : left = right) (bare : right.members = none) :
    List.Forall₂ (Finding.Alike a b) [left] [right] :=
  .cons (Finding.alike_of_leaf same bare) .nil

namespace Go

theorem typeForm_graft (base : Context) (type : Option Cursor) (source : Source) :
    (typeForm (type.map (Cursor.graft base))).1 = (typeForm type).1 ∧
    (typeForm (type.map (Cursor.graft base))).2.1.text source = (typeForm type).2.1.text source ∧
    (typeForm (type.map (Cursor.graft base))).2.2 = (typeForm type).2.2.map (Cursor.graft base) := by
  cases type with
  | none => exact ⟨rfl, rfl, rfl⟩
  | some type =>
      by_cases isStruct : type.kind = "struct_type"
      · simp [typeForm, isStruct]
      · by_cases isInterface : type.kind = "interface_type"
        · simp [typeForm, isInterface]
        · simp [typeForm, isStruct, isInterface]

theorem typeSpec_alike (alike : a.Alike b) (source : Source) (spec place : Cursor) (documentation : Option String) :
    (typeSpec source (spec.graft a) (place.graft a) documentation).Alike a b
      (typeSpec source (spec.graft b) (place.graft b) documentation) := by
  obtain ⟨kindA, textA, membersA⟩ := typeForm_graft a (spec.field? "type") source
  obtain ⟨kindB, textB, membersB⟩ := typeForm_graft b (spec.field? "type") source
  refine ⟨?_, (typeForm (spec.field? "type")).2.2, ?_, ?_⟩
  · simp [typeSpec, Source.signature, alike.declare_graft, kindA, kindB, textA, textB, membersA, membersB]
  · simpa [typeSpec] using membersA
  · simpa [typeSpec] using membersB

theorem specFindings_alike (alike : a.Alike b) {source : Source} {cursor : Cursor} {grouped : Bool}
    {specs : List Cursor} {finding : Cursor → Cursor → Option String → Finding}
    (each : ∀ (spec place : Cursor) documentation, (finding (spec.graft a) (place.graft a) documentation).Alike a b
      (finding (spec.graft b) (place.graft b) documentation)) :
    List.Forall₂ (Finding.Alike a b)
      (specFindings source (cursor.graft a) grouped (specs.map (Cursor.graft a)) finding)
      (specFindings source (cursor.graft b) grouped (specs.map (Cursor.graft b)) finding) := by
  have placed : ∀ (spec : Cursor) documentation,
      (finding (spec.graft a) (if grouped then spec.graft a else cursor.graft a) documentation).Alike a b
        (finding (spec.graft b) (if grouped then spec.graft b else cursor.graft b) documentation) := by
    intro spec documentation
    cases grouped with
    | false => exact each spec cursor documentation
    | true => exact each spec spec documentation
  rw [specFindings, specFindings]
  rw [alike.documentation_graft source cursor]
  cases specs with
  | nil => exact .nil
  | cons first rest =>
      simp only [List.map_cons, documented, leadingDocumentation, alike.documentation_graft source first, List.map_map]
      refine .cons (placed first _) ?_
      rw [List.forall₂_map_left_iff, List.forall₂_map_right_iff, List.forall₂_same]
      exact fun spec _ => placed spec none

theorem typeDeclaration_alike (alike : a.Alike b) (source : Source) (cursor : Cursor) :
    List.Forall₂ (Finding.Alike a b) (typeDeclaration source (cursor.graft a))
      (typeDeclaration source (cursor.graft b)) := by
  have specs : ∀ base, typeSpecs (cursor.graft base) = (typeSpecs cursor).map (Cursor.graft base) := by
    intro base
    simp [typeSpecs, List.filter_map, Function.comp_def]
  simp only [typeDeclaration, specs, List.length_map, Cursor.hasChild_graft]
  refine specFindings_alike alike fun spec place documentation => ?_
  by_cases isAlias : spec.kind = "type_alias"
  · simp only [Cursor.kind_graft, isAlias, if_true]
    exact Finding.alike_of_leaf (by simp [typeAlias, Source.signature, alike.leaf_graft]) rfl
  · simp only [Cursor.kind_graft, isAlias, if_false]
    exact typeSpec_alike alike source spec place documentation

theorem valueSpecs_graft (base : Context) (cursor : Cursor) :
    valueSpecs (cursor.graft base) = (valueSpecs cursor).map (Cursor.graft base) := by
  have each : ∀ child : Cursor, valueSpecsOf (child.graft base) = (valueSpecsOf child).map (Cursor.graft base) := by
    intro child
    simp only [valueSpecsOf, Cursor.kind_graft, Cursor.childrenOfKind_graft]
    split
    · rfl
    · split <;> rfl
  simp only [valueSpecs, Cursor.namedChildren_graft, List.flatMap_map, List.map_flatMap, each]

theorem valueSpec_graft (alike : a.Alike b) (source : Source) (kind : Kind) (spec place : Cursor)
    (documentation : Option String) :
    valueSpec source kind (spec.graft a) (place.graft a) documentation =
      valueSpec source kind (spec.graft b) (place.graft b) documentation := by
  have shown : ∀ base, shownValue source (spec.graft base) = (shownValue source spec).map (Cursor.graft base) := by
    intro base
    simp [shownValue, Option.filter_map, Function.comp_def]
  simp [valueSpec, Source.signature, alike.leaf_graft, shown]

theorem valueDeclaration_alike (alike : a.Alike b) (source : Source) (cursor : Cursor) (kind : Kind) :
    List.Forall₂ (Finding.Alike a b) (valueDeclaration source (cursor.graft a) kind)
      (valueDeclaration source (cursor.graft b) kind) := by
  simp only [valueDeclaration, valueSpecs_graft, List.length_map, Cursor.hasChild_graft, Cursor.namedChildren_graft,
    List.any_map, Function.comp_def, Cursor.kind_graft]
  refine specFindings_alike alike fun spec place documentation => ?_
  exact Finding.alike_of_leaf (valueSpec_graft alike source kind spec place documentation) rfl

theorem findings_alike (alike : a.Alike b) (source : Source) (cursor : Cursor) (kind : Kind) (depth : Nat) :
    List.Forall₂ (Finding.Alike a b) (findings source (cursor.graft a) kind depth)
      (findings source (cursor.graft b) kind depth) := by
  cases form cursor with
  | package is =>
      simp only [findings, Cursor.kind_graft, is]
      exact leaf_alike (by simp [packageClause, alike.leaf_graft]) rfl
  | imports is =>
      simp only [findings, Cursor.kind_graft, is]
      exact leaf_alike (by simp [importDeclaration, alike.leaf_graft]) rfl
  | function is =>
      simp only [findings, Cursor.kind_graft, is]
      exact leaf_alike (by simp [function, callableBody, Source.signature, alike.leaf_graft]) rfl
  | method is =>
      simp only [findings, Cursor.kind_graft, is]
      exact leaf_alike (by simp [method, callableBody, Source.signature, alike.leaf_graft]) rfl
  | types is =>
      simp only [findings, Cursor.kind_graft, is]
      exact typeDeclaration_alike alike source cursor
  | values is =>
      have moved : ∀ base, (cursor.graft base).kind ∈ valueKinds := fun _ => is
      rw [findings_of_valueDeclaration (moved a), findings_of_valueDeclaration (moved b)]
      exact valueDeclaration_alike alike source cursor kind
  | field is =>
      simp only [findings, Cursor.kind_graft, is]
      exact leaf_alike (by simp [structField, alike.leaf_graft, ← Option.map_or]) rfl
  | interface is =>
      have moved : ∀ base, (cursor.graft base).kind ∈ interfaceKinds := fun _ => is
      rw [findings_of_interfaceLine (moved a), findings_of_interfaceLine (moved b)]
      exact leaf_alike (by simp [interfaceLine, alike.leaf_graft]) rfl
  | other no =>
      have moved : ∀ base, (cursor.graft base).kind ∉ declaringKinds := fun _ => no
      rw [findings_of_other (moved a), findings_of_other (moved b)]
      exact .nil

end Go

namespace Java

@[simp] theorem modifiers_graft (source : Source) (base : Context) (cursor : Cursor) :
    modifiers source (cursor.graft base) = modifiers source cursor := by
  simp [modifiers]

@[simp] theorem heritage?_graft (source : Source) (base : Context) (cursor : Cursor) :
    heritage? source (cursor.graft base) = heritage? source cursor := by
  have clauses : (cursor.graft base).children.filter isHeritage =
      (cursor.children.filter isHeritage).map (Cursor.graft base) := by
    rw [Cursor.children_graft, List.filter_map]
    rfl
  rw [heritage?, heritage?]
  rw [clauses]
  cases cursor.children.filter isHeritage with
  | nil => rfl
  | cons clause rest => simp

theorem typeDeclaration_alike (alike : a.Alike b) (source : Source) (cursor : Cursor) (kind : Kind) (keyword : String) :
    (typeDeclaration source (cursor.graft a) kind keyword).Alike a b
      (typeDeclaration source (cursor.graft b) kind keyword) := by
  simp only [typeDeclaration, Source.signature, modifiers_graft, heritage?_graft, List.map_cons, List.map_nil,
    Piece.text_field_graft, Source.nameAt_graft]
  exact Finding.alike_of_field alike source cursor cursor _ kind _ "body"

theorem fields_alike (alike : a.Alike b) (source : Source) (cursor : Cursor) :
    List.Forall₂ (Finding.Alike a b) (fields source (cursor.graft a)) (fields source (cursor.graft b)) := by
  rw [fields, fields]
  simp only [Cursor.labelled_graft, List.map_map]
  rw [List.forall₂_map_left_iff, List.forall₂_map_right_iff, List.forall₂_same]
  intro declarator _
  exact Finding.alike_of_leaf (by simp [Source.signature, alike.leaf_graft]) rfl

theorem findings_alike (alike : a.Alike b) (source : Source) (cursor : Cursor) (kind : Kind) (depth : Nat) :
    List.Forall₂ (Finding.Alike a b) (findings source (cursor.graft a) kind depth)
      (findings source (cursor.graft b) kind depth) := by
  cases form cursor with
  | path is =>
      have moved : ∀ base, (cursor.graft base).kind ∈ pathKinds := fun _ => is
      rw [findings_of_path (moved a), findings_of_path (moved b)]
      by_cases isPackage : cursor.kind = "package_declaration"
      · exact leaf_alike (by simp [pathLine, alike.leaf_graft, isPackage]) rfl
      · exact leaf_alike (by simp [pathLine, alike.leaf_graft, isPackage]) rfl
  | type is =>
      obtain ⟨declared, keyword, _, made⟩ := findings_of_type is
      rw [made (cursor.graft a) rfl, made (cursor.graft b) rfl]
      exact .cons (typeDeclaration_alike alike source cursor _ _) .nil
  | method is =>
      have moved : ∀ base, (cursor.graft base).kind ∈ methodKinds := fun _ => is
      rw [findings_of_method (moved a), findings_of_method (moved b)]
      by_cases isElement : cursor.kind = "annotation_type_element_declaration"
      · exact leaf_alike (by simp [method, Source.signature, alike.leaf_graft, isElement]) rfl
      · exact leaf_alike (by simp [method, Source.signature, alike.leaf_graft, isElement]) rfl
  | constructor is =>
      have moved : ∀ base, (cursor.graft base).kind ∈ constructorKinds := fun _ => is
      rw [findings_of_constructor (moved a), findings_of_constructor (moved b)]
      exact leaf_alike (by simp [constructor, Source.signature, alike.leaf_graft]) rfl
  | fields is =>
      have moved : ∀ base, (cursor.graft base).kind ∈ fieldKinds := fun _ => is
      rw [findings_of_fields (moved a), findings_of_fields (moved b)]
      exact fields_alike alike source cursor
  | enumConstant is =>
      simp only [findings, Cursor.kind_graft, is]
      exact leaf_alike (by simp [enumConstant, Source.signature, alike.leaf_graft]) rfl
  | other no =>
      have moved : ∀ base, (cursor.graft base).kind ∉ declaringKinds := fun _ => no
      rw [findings_of_other (moved a), findings_of_other (moved b)]
      exact .nil

end Java

namespace Python

theorem decorated?_graft {base : Context}
    (undecorated : ∀ node, Cursor.isUnder ⟨node, base⟩ "decorated_definition" = false) (cursor : Cursor) :
    decorated? (cursor.graft base) = (decorated? cursor).map (Cursor.graft base) := by
  obtain ⟨node, context⟩ := cursor
  cases context with
  | top =>
      have bare : decorated? ⟨node, base⟩ = none := by
        rw [decorated?]
        rw [Option.filter_eq_none_iff]
        intro parent found isDecorated
        have seen := undecorated node
        rw [Cursor.isUnder, found, Option.any_some, isDecorated] at seen
        cases seen
      exact bare
  | under parent above before =>
      by_cases isDecorated : parent.kind = "decorated_definition"
      · have kept : ∀ place : Context, decorated? ⟨node, .under parent place before⟩ = some ⟨parent, place⟩ := by
          intro place
          simp [decorated?, Cursor.parent?, Option.filter, Cursor.kind, isDecorated]
        exact (kept _).trans (congrArg (Option.map (Cursor.graft base)) (kept above)).symm
      · have left : ∀ place : Context, decorated? ⟨node, .under parent place before⟩ = none := by
          intro place
          simp [decorated?, Cursor.parent?, Option.filter, Cursor.kind, isDecorated]
        exact (left _).trans (congrArg (Option.map (Cursor.graft base)) (left above)).symm

theorem decorators_graft {base : Context}
    (undecorated : ∀ node, Cursor.isUnder ⟨node, base⟩ "decorated_definition" = false) (source : Source)
    (cursor : Cursor) : decorators source (cursor.graft base) = decorators source cursor := by
  rw [decorators, decorators]
  rw [decorated?_graft undecorated]
  cases decorated? cursor with
  | none => rfl
  | some whole => simp

theorem docstring?_graft (base : Context) (source : Source) (cursor : Cursor) :
    docstring? source (cursor.graft base) = docstring? source cursor := by
  have literal : docstringNode? (cursor.graft base) = (docstringNode? cursor).map (Cursor.graft base) := by
    simp [docstringNode?, Option.bind_map, Option.map_bind, Option.filter_map, Function.comp_def]
  simp [docstring?, literal, Function.comp_def]

theorem documentation?_graft (alike : a.Alike b) (source : Source) (cursor : Cursor) :
    documentation? source (cursor.graft a) = documentation? source (cursor.graft b) := by
  have anchor : ∀ base, (decorated? (cursor.graft base) = (decorated? cursor).map (Cursor.graft base)) →
      (decorated? (cursor.graft base)).getD (cursor.graft base) = ((decorated? cursor).getD cursor).graft base := by
    intro base same
    rw [same]
    cases decorated? cursor <;> rfl
  rw [documentation?, documentation?]
  rw [docstring?_graft, docstring?_graft, anchor a (decorated?_graft alike.undecorated cursor),
    anchor b (decorated?_graft alike.right_undecorated cursor), alike.documentation_graft]

theorem findings_alike (alike : a.Alike b) (source : Source) (cursor : Cursor) (kind : Kind) (depth : Nat) :
    List.Forall₂ (Finding.Alike a b) (findings source (cursor.graft a) kind depth)
      (findings source (cursor.graft b) kind depth) := by
  have decoratorsA := decorators_graft alike.undecorated source cursor
  have decoratorsB := decorators_graft alike.right_undecorated source cursor
  have same := documentation?_graft alike source cursor
  simp only [findings]
  split
  · exact leaf_alike (by simp [importStatement, alike.leaf_graft]) rfl
  · exact leaf_alike (by simp [function, Source.signature, alike.leaf_graft, decoratorsA, decoratorsB, same]) rfl
  · refine .cons ?_ .nil
    simp only [classDefinition, Source.signature, decoratorsA, decoratorsB, same, List.map_cons, List.map_nil,
      Piece.text_field_graft, Source.nameAt_graft, Source.fieldText?_graft]
    exact Finding.alike_of_field alike source cursor cursor _ .classType _ "body"
  · exact .nil

end Python

namespace Swift

@[simp] theorem typeKind_graft (source : Source) (base : Context) (cursor : Cursor) :
    typeKind source (cursor.graft base) = typeKind source cursor := by
  have keyword : typeKeyword source (cursor.graft base) = typeKeyword source cursor := by
    rw [typeKeyword, typeKeyword]
    rw [Cursor.field?_graft]
    cases cursor.field? "declaration_kind" with
    | none => simp [Function.comp_def]
    | some keyword => rfl
  simp only [typeKind, keyword]

theorem role_graft (base : Context) (source : Source) (cursor : Cursor) :
    role source (cursor.graft base) = role source cursor := by
  simp only [role, Cursor.isComment_graft, Cursor.kind_graft, typeKind_graft]

@[simp] theorem header_graft (source : Source) (base : Context) (cursor : Cursor) :
    header source (cursor.graft base) = header source cursor := by
  simp [header]

@[simp] theorem modifiers_graft (source : Source) (base : Context) (cursor : Cursor) :
    modifiers source (cursor.graft base) = modifiers source cursor := by
  simp [modifiers]

@[simp] theorem heritage?_graft (source : Source) (base : Context) (cursor : Cursor) :
    heritage? source (cursor.graft base) = heritage? source cursor := by
  rw [heritage?, heritage?]
  rw [Cursor.childrenOfKind_graft]
  cases cursor.childrenOfKind "inheritance_specifier" with
  | nil => rfl
  | cons specifier rest => simp

theorem typeDeclaration_alike (alike : a.Alike b) (source : Source) (cursor : Cursor) (kind : Kind) :
    (typeDeclaration source (cursor.graft a) kind).Alike a b (typeDeclaration source (cursor.graft b) kind) := by
  simp only [typeDeclaration, header_graft, modifiers_graft, heritage?_graft, Source.nameAt_graft]
  exact Finding.alike_of_field alike source cursor cursor _ kind _ "body"

theorem findings_alike (alike : a.Alike b) (source : Source) (cursor : Cursor) (kind : Kind) (depth : Nat) :
    List.Forall₂ (Finding.Alike a b) (findings source (cursor.graft a) kind depth)
      (findings source (cursor.graft b) kind depth) := by
  cases form cursor with
  | line is =>
      have moved : ∀ base, (cursor.graft base).kind ∈ lineKinds := fun _ => is
      rw [findings_of_line (moved a), findings_of_line (moved b)]
      exact leaf_alike (by simp [asWritten, alike.leaf_graft]) rfl
  | type is =>
      have moved : ∀ base, (cursor.graft base).kind ∈ typeKinds := fun _ => is
      rw [findings_of_type (moved a), findings_of_type (moved b)]
      exact .cons (typeDeclaration_alike alike source cursor kind) .nil
  | function is =>
      have moved : ∀ base, (cursor.graft base).kind ∈ functionKinds := fun _ => is
      rw [findings_of_function (moved a), findings_of_function (moved b)]
      exact leaf_alike (by simp [function, callable, alike.leaf_graft]) rfl
  | special is =>
      have moved : ∀ base, (cursor.graft base).kind ∈ specialKinds := fun _ => is
      rw [findings_of_special (moved a), findings_of_special (moved b)]
      exact leaf_alike (by simp [callable, alike.leaf_graft]) rfl
  | property is =>
      have moved : ∀ base, (cursor.graft base).kind ∈ propertyKinds := fun _ => is
      rw [findings_of_property (moved a), findings_of_property (moved b)]
      exact leaf_alike (by simp [property, alike.leaf_graft]) rfl
  | typeAlias is =>
      simp only [findings, Cursor.kind_graft, is]
      exact leaf_alike (by simp [typeAlias, alike.leaf_graft]) rfl
  | enumEntry is =>
      simp only [findings, Cursor.kind_graft, is]
      exact leaf_alike (by simp [enumEntry, alike.leaf_graft]) rfl
  | other no =>
      have moved : ∀ base, (cursor.graft base).kind ∉ declaringKinds := fun _ => no
      rw [findings_of_other (moved a), findings_of_other (moved b)]
      exact .nil

end Swift

namespace C

theorem inner?_graft (base : Context) (declarator : Cursor) :
    inner? (declarator.graft base) = (inner? declarator).map (Cursor.graft base) := by
  simp [inner?, Option.map_or]

theorem nameInside_graft (base : Context) (source : Source) (declarator : Cursor) :
    nameInside source (declarator.graft base) = nameInside source declarator := by
  rw [nameInside_eq, nameInside_eq source declarator, Cursor.kind_graft, Source.text_graft, inner?_graft]
  cases found : inner? declarator with
  | none => rfl
  | some next => simp only [Option.map_some, nameInside_graft base source next]
termination_by declarator.size
decreasing_by exact size_of_inner? found

@[simp] theorem declaredName_graft (base : Context) (source : Source) (cursor : Cursor) :
    declaredName source (cursor.graft base) = declaredName source cursor := by
  rw [declaredName, declaredName]
  rw [Cursor.field?_graft]
  cases cursor.field? "declarator" with
  | none => rfl
  | some declarator => exact nameInside_graft base source declarator

theorem asWritten_graft (alike : a.Alike b) (source : Source) (cursor : Cursor) (kind : Kind) :
    asWritten source (cursor.graft a) kind = asWritten source (cursor.graft b) kind := by
  simp [asWritten, alike.leaf_graft]

theorem functionDefinition_graft (alike : a.Alike b) (source : Source) (cursor : Cursor) (kind : Kind) :
    functionDefinition source (cursor.graft a) kind = functionDefinition source (cursor.graft b) kind := by
  rw [functionDefinition, functionDefinition]
  rw [Cursor.field?_graft, Cursor.field?_graft]
  cases cursor.field? "body" with
  | none => exact asWritten_graft alike source cursor kind
  | some body => simp [alike.leaf_graft]

theorem record_alike (alike : a.Alike b) (source : Source) (cursor : Cursor) (kind : Kind) :
    (record source (cursor.graft a) kind).Alike a b (record source (cursor.graft b) kind) := by
  refine ⟨?_, cursor.field? "body", Cursor.field?_graft a cursor "body", Cursor.field?_graft b cursor "body"⟩
  simp [record, alike.declare_graft, Function.comp_def]

theorem declarations_alike (alike : a.Alike b) (source : Source) (cursor : Cursor) (kind : Kind) :
    List.Forall₂ (Finding.Alike a b) (declarations source (cursor.graft a) kind)
      (declarations source (cursor.graft b) kind) := by
  cases form cursor with
  | line is =>
      have moved : ∀ base, (cursor.graft base).kind ∈ lineKinds := fun _ => is
      rw [declarations_of_line (moved a), declarations_of_line (moved b)]
      exact leaf_alike (asWritten_graft alike source cursor kind) rfl
  | function is =>
      simp only [declarations, Cursor.kind_graft, is]
      exact leaf_alike (functionDefinition_graft alike source cursor kind)
        (members_of_functionDefinition source _ kind)
  | record is =>
      have moved : ∀ base, (cursor.graft base).kind ∈ specifiers := fun _ => is
      rw [declarations_of_record (moved a), declarations_of_record (moved b)]
      exact .cons (record_alike alike source cursor kind) .nil
  | enumerator is =>
      simp only [declarations, Cursor.kind_graft, is]
      exact leaf_alike (by simp [enumerator, alike.leaf_graft]) rfl
  | other no =>
      have moved : ∀ base, (cursor.graft base).kind ∉ declaringKinds := fun _ => no
      rw [declarations_of_other (moved a), declarations_of_other (moved b)]
      exact .nil

@[simp] theorem hasFunctionDeclarator_graft (base : Context) (cursor : Cursor) :
    hasFunctionDeclarator (cursor.graft base) = hasFunctionDeclarator cursor := by
  simp [hasFunctionDeclarator, Function.comp_def]

theorem role_graft (base : Context) (source : Source) (cursor : Cursor) :
    role source (cursor.graft base) = role source cursor := by
  simp [role]

end C

namespace Cpp

theorem templateSubject?_graft (base : Context) (cursor : Cursor) :
    templateSubject? (cursor.graft base) = (templateSubject? cursor).map (Cursor.graft base) := by
  simp [templateSubject?, List.filter_map, Function.comp_def]

theorem role_alike (alike : a.Alike b) (source : Source) (cursor : Cursor) :
    role source (cursor.graft a) = role source (cursor.graft b) := by
  by_cases isTemplate : cursor.kind = "template_declaration"
  · have moved : ∀ base, (cursor.graft base).kind = "template_declaration" := fun _ => isTemplate
    rw [role_of_template (moved a), role_of_template (moved b), templateSubject?_graft, templateSubject?_graft]
    cases found : templateSubject? cursor with
    | none => rfl
    | some target => simp only [Option.map_some, role_alike alike source target]
  · rw [role, role, Cursor.kind_graft, Cursor.kind_graft, alike.isClassMember_graft, C.hasFunctionDeclarator_graft,
      C.hasFunctionDeclarator_graft, C.role_graft, C.role_graft]
    split <;> first | contradiction | rfl
termination_by cursor.size
decreasing_by exact size_of_templateSubject? found

theorem underTemplate_alike (alike : a.Alike b) (source : Source) (template target : Cursor) {left right : Finding}
    (same : left.Alike a b right) :
    (underTemplate source (template.graft a) (target.graft a) left).Alike a b
      (underTemplate source (template.graft b) (target.graft b) right) := by
  refine ⟨?_, same.members⟩
  simp [underTemplate, same.declaration, alike.documentation_graft]

theorem declarations_alike (alike : a.Alike b) (source : Source) (cursor : Cursor) (kind : Kind) :
    List.Forall₂ (Finding.Alike a b) (declarations source (cursor.graft a) kind)
      (declarations source (cursor.graft b) kind) := by
  cases form cursor with
  | nameSpace is =>
      simp only [declarations, Cursor.kind_graft, is]
      refine .cons ⟨?_, cursor.field? "body", Cursor.field?_graft a cursor "body",
        Cursor.field?_graft b cursor "body"⟩ .nil
      simp [nameSpace, alike.declare_graft]
  | record is =>
      simp only [declarations, Cursor.kind_graft, is]
      exact .cons (C.record_alike alike source cursor kind) .nil
  | template is =>
      have moved : ∀ base, (cursor.graft base).kind = "template_declaration" := fun _ => is
      rw [declarations_of_template (moved a), declarations_of_template (moved b), templateSubject?_graft,
        templateSubject?_graft]
      cases found : templateSubject? cursor with
      | none => exact .nil
      | some target =>
          have inner := declarations_alike alike source target kind
          simp only [Option.map_some, Option.getD_some]
          rw [List.forall₂_map_left_iff, List.forall₂_map_right_iff]
          exact inner.imp fun left right same => underTemplate_alike alike source cursor target same
  | line is =>
      have moved : ∀ base, (cursor.graft base).kind ∈ lineKinds := fun _ => is
      rw [declarations_of_line (moved a), declarations_of_line (moved b)]
      exact leaf_alike (C.asWritten_graft alike source cursor kind) rfl
  | shared no =>
      have moved : ∀ base, (cursor.graft base).kind ∉ declaringKinds := fun _ => no
      rw [declarations_of_other (moved a), declarations_of_other (moved b)]
      exact C.declarations_alike alike source cursor kind
termination_by cursor.size
decreasing_by exact size_of_templateSubject? found

end Cpp

theorem filterMap_alike {items : List Cursor} {left right : Cursor → Option Finding}
    (each : ∀ item, Option.Rel (Finding.Alike a b) (left item) (right item)) :
    List.Forall₂ (Finding.Alike a b) (items.filterMap left) (items.filterMap right) := by
  induction items with
  | nil => exact .nil
  | cons item rest ih =>
      have first := each item
      simp only [List.filterMap_cons]
      generalize left item = one at first ⊢
      generalize right item = other at first ⊢
      cases first with
      | none => exact ih
      | some same => exact .cons same ih

namespace JavaScript

@[simp] theorem place_graft (base : Context) (cursor : Cursor) (statement : Option Cursor) :
    place (cursor.graft base) (statement.map (Cursor.graft base)) = (place cursor statement).graft base := by
  cases statement <;> rfl

@[simp] theorem exportWords_graft (base : Context) (statement : Option Cursor) :
    exportWords (statement.map (Cursor.graft base)) = exportWords statement := by
  cases statement with
  | none => rfl
  | some statement => simp [exportWords]

theorem asWritten_graft (alike : a.Alike b) (source : Source) (cursor : Cursor) (kind : Kind) :
    asWritten source (cursor.graft a) kind = asWritten source (cursor.graft b) kind := by
  simp [asWritten, alike.leaf_graft]

theorem exportedValue_graft (alike : a.Alike b) (source : Source) (cursor value : Cursor) :
    exportedValue source (cursor.graft a) (value.graft a) = exportedValue source (cursor.graft b) (value.graft b) := by
  rw [exportedValue, exportedValue]
  rw [Cursor.field?_graft, Cursor.field?_graft]
  cases value.field? "body" with
  | none => simp [alike.leaf_graft]
  | some body => simp [alike.leaf_graft]

theorem function_graft (alike : a.Alike b) (source : Source) (cursor : Cursor) (statement : Option Cursor) :
    function source (cursor.graft a) (statement.map (Cursor.graft a)) =
      function source (cursor.graft b) (statement.map (Cursor.graft b)) := by
  simp [function, callablePieces, isGenerator, Source.signature, alike.leaf_graft]

theorem classDeclaration_alike (alike : a.Alike b) (source : Source) (cursor : Cursor) (statement : Option Cursor) :
    (classDeclaration source (cursor.graft a) (statement.map (Cursor.graft a))).Alike a b
      (classDeclaration source (cursor.graft b) (statement.map (Cursor.graft b))) := by
  refine ⟨?_, cursor.field? "body", Cursor.field?_graft a cursor "body", Cursor.field?_graft b cursor "body"⟩
  simp [classDeclaration, Source.signature, alike.declare_graft]

@[simp] theorem wordsBeforeName_graft (base : Context) (source : Source) (cursor : Cursor) :
    wordsBeforeName source (cursor.graft base) = wordsBeforeName source cursor := by
  have start : nameStart (cursor.graft base) = nameStart cursor := by
    simp [nameStart, ← Option.map_or, Function.comp_def]
  rw [wordsBeforeName, wordsBeforeName]
  simp only [start, Cursor.children_graft, List.takeWhile_map, List.filter_map, List.map_map]
  rfl

theorem method_graft (alike : a.Alike b) (source : Source) (cursor : Cursor) :
    method source (cursor.graft a) = method source (cursor.graft b) := by
  simp [method, callablePieces, Source.signature, alike.leaf_graft]

theorem field_graft (alike : a.Alike b) (source : Source) (cursor : Cursor) :
    field source (cursor.graft a) = field source (cursor.graft b) := by
  simp [field, alike.leaf_graft, ← Option.map_or]

theorem callsRequire_graft (base : Context) (source : Source) (value : Cursor) :
    callsRequire source (value.graft base) = callsRequire source value := by
  rw [callsRequire_eq, callsRequire_eq source value, Cursor.kind_graft, Cursor.field?_graft, Cursor.field?_graft]
  have callee : ((value.field? "function").map (Cursor.graft base)).any (source.text · == "require") =
      (value.field? "function").any (source.text · == "require") := by
    cases value.field? "function" <;> rfl
  have object : ((value.field? "object").map (Cursor.graft base)).any (callsRequire source) =
      (value.field? "object").any (callsRequire source) := by
    cases found : value.field? "object" with
    | none => rfl
    | some object => exact callsRequire_graft base source object
  rw [callee, object]
termination_by value.size
decreasing_by exact Cursor.size_of_field? found

theorem requires_graft (base : Context) (source : Source) (declarator : Cursor) :
    requires source (declarator.graft base) = requires source declarator := by
  rw [requires, requires]
  rw [Cursor.field?_graft]
  cases declarator.field? "value" with
  | none => rfl
  | some value => exact callsRequire_graft base source value

theorem variableKeyword_graft (base : Context) (source : Source) (cursor : Cursor) :
    variableKeyword source (cursor.graft base) = variableKeyword source cursor := by
  simp [variableKeyword]

@[simp] theorem isGenerator_graft (base : Context) (value : Cursor) :
    isGenerator (value.graft base) = isGenerator value := rfl

theorem text_functionValuePieces_graft (base : Context) (source : Source) (value : Cursor) :
    (functionValuePieces (value.graft base)).map (·.text source) =
      (functionValuePieces value).map (·.text source) := by
  unfold functionValuePieces callablePieces
  rw [Cursor.kind_graft, Cursor.hasChild_graft, isGenerator_graft]
  by_cases isArrow : value.kind = "arrow_function"
  · simp [isArrow]
  · rw [if_neg isArrow, if_neg isArrow]
    simp

theorem declarator_alike (alike : a.Alike b) (source : Source) (cursor : Cursor) (statement : Option Cursor)
    (keyword : String) (declarator : Cursor) :
    Option.Rel (Finding.Alike a b)
      (declarator? source (cursor.graft a) (statement.map (Cursor.graft a)) keyword (declarator.graft a))
      (declarator? source (cursor.graft b) (statement.map (Cursor.graft b)) keyword (declarator.graft b)) := by
  have other : ∀ signature kind, Option.Rel (Finding.Alike a b)
      (if statement.isSome then
        some (source.leaf ((place cursor statement).graft a) (source.nameAt declarator) kind
          { signature := some signature })
      else none)
      (if statement.isSome then
        some (source.leaf ((place cursor statement).graft b) (source.nameAt declarator) kind
          { signature := some signature })
      else none) := by
    intro signature kind
    cases statement with
    | none => exact .none
    | some statement => exact .some (Finding.alike_of_leaf (alike.leaf_graft source _ _ _ _) rfl)
  simp only [declarator?, Cursor.field?_graft, place_graft, exportWords_graft, Source.nameAt_graft, Option.isSome_map,
    Source.signature, List.map_append, List.map_cons, List.map_nil, Piece.text_field_graft]
  cases declarator.field? "value" with
  | none => exact other _ _
  | some value =>
      simp only [Option.map_some, isFunctionValue, Cursor.kind_graft, Cursor.field?_graft, text_functionValuePieces_graft,
        Cursor.childOfKind?_graft, Piece.text_excerpt_graft]
      split
      · exact .some (Finding.alike_of_leaf (alike.leaf_graft source _ _ _ _) rfl)
      · split
        · exact .some ⟨alike.declare_graft source _ _ _ _, value.field? "body", rfl, rfl⟩
        · exact other _ _

theorem declaredVariables_alike (alike : a.Alike b) (source : Source) (cursor : Cursor) (statement : Option Cursor) :
    List.Forall₂ (Finding.Alike a b)
      (declaredVariables source (cursor.graft a) (statement.map (Cursor.graft a)))
      (declaredVariables source (cursor.graft b) (statement.map (Cursor.graft b))) := by
  simp only [declaredVariables, Cursor.childrenOfKind_graft, List.any_map, Function.comp_def, requires_graft,
    variableKeyword_graft, List.filterMap_map]
  split
  · exact leaf_alike (asWritten_graft alike source cursor .importLine) rfl
  · exact filterMap_alike fun declarator => declarator_alike alike source cursor statement _ declarator

theorem declarations_alike (alike : a.Alike b) (source : Source) (cursor : Cursor) (statement : Option Cursor) :
    List.Forall₂ (Finding.Alike a b)
      (declarations source (cursor.graft a) (statement.map (Cursor.graft a)))
      (declarations source (cursor.graft b) (statement.map (Cursor.graft b))) := by
  cases form cursor with
  | imports is =>
      simp only [declarations, Cursor.kind_graft, is]
      exact leaf_alike (asWritten_graft alike source cursor .importLine) rfl
  | exports is =>
      have moved : ∀ base, (cursor.graft base).kind = "export_statement" := fun _ => is
      rw [declarations_of_export (moved a), declarations_of_export (moved b)]
      simp only [Cursor.field?_graft]
      cases found : cursor.field? "declaration" with
      | some declaration =>
          have inner := declarations_alike alike source declaration (some cursor)
          simp only [Option.map_some] at inner ⊢
          generalize declarations source (declaration.graft a) (some (cursor.graft a)) = left at inner ⊢
          generalize declarations source (declaration.graft b) (some (cursor.graft b)) = right at inner ⊢
          cases inner with
          | nil => exact leaf_alike (exportedValue_graft alike source cursor declaration) rfl
          | cons same rest => exact .cons same rest
      | none =>
          cases cursor.field? "value" with
          | some value => exact leaf_alike (exportedValue_graft alike source cursor value) rfl
          | none => exact leaf_alike (asWritten_graft alike source cursor .exportLine) rfl
  | function is =>
      have moved : ∀ base, (cursor.graft base).kind ∈ functionKinds := fun _ => is
      rw [declarations_of_function (moved a), declarations_of_function (moved b)]
      exact leaf_alike (function_graft alike source cursor statement) rfl
  | classDeclaration is =>
      simp only [declarations, Cursor.kind_graft, is]
      exact .cons (classDeclaration_alike alike source cursor statement) .nil
  | method is =>
      simp only [declarations, Cursor.kind_graft, is]
      exact leaf_alike (method_graft alike source cursor) rfl
  | field is =>
      simp only [declarations, Cursor.kind_graft, is]
      exact leaf_alike (field_graft alike source cursor) rfl
  | bindings is =>
      have moved : ∀ base, (cursor.graft base).kind ∈ variableKinds := fun _ => is
      rw [declarations_of_declaredVariables (moved a), declarations_of_declaredVariables (moved b)]
      exact declaredVariables_alike alike source cursor statement
  | other no =>
      have moved : ∀ base, (cursor.graft base).kind ∉ declaringKinds := fun _ => no
      rw [declarations_of_other (moved a), declarations_of_other (moved b)]
      exact .nil
termination_by cursor.size
decreasing_by exact Cursor.size_of_field? found

end JavaScript

namespace TypeScript

theorem role_alike (alike : a.Alike b) (source : Source) (cursor : Cursor) :
    role source (cursor.graft a) = role source (cursor.graft b) := by
  have inherited : JavaScript.role source (cursor.graft a) = JavaScript.role source (cursor.graft b) := rfl
  rw [role, role]
  rw [Cursor.kind_graft, Cursor.kind_graft, inherited, alike.isUnder_graft cursor (by decide)]

theorem interface_alike (alike : a.Alike b) (source : Source) (cursor : Cursor) (statement : Option Cursor) :
    (interface source (cursor.graft a) (statement.map (Cursor.graft a))).Alike a b
      (interface source (cursor.graft b) (statement.map (Cursor.graft b))) := by
  refine ⟨?_, cursor.field? "body", Cursor.field?_graft a cursor "body", Cursor.field?_graft b cursor "body"⟩
  simp [interface, Source.signature, alike.declare_graft]

theorem enum_alike (alike : a.Alike b) (source : Source) (cursor : Cursor) (statement : Option Cursor) :
    (enum source (cursor.graft a) (statement.map (Cursor.graft a))).Alike a b
      (enum source (cursor.graft b) (statement.map (Cursor.graft b))) := by
  refine ⟨?_, cursor.field? "body", Cursor.field?_graft a cursor "body", Cursor.field?_graft b cursor "body"⟩
  simp [enum, Source.signature, alike.declare_graft]

theorem nameSpace_alike (alike : a.Alike b) (source : Source) (cursor : Cursor) (statement : Option Cursor) :
    (nameSpace source (cursor.graft a) (statement.map (Cursor.graft a))).Alike a b
      (nameSpace source (cursor.graft b) (statement.map (Cursor.graft b))) := by
  refine ⟨?_, cursor.field? "body", Cursor.field?_graft a cursor "body", Cursor.field?_graft b cursor "body"⟩
  simp [nameSpace, alike.declare_graft]

theorem own_alike (alike : a.Alike b) (source : Source) (cursor : Cursor) (statement : Option Cursor) :
    Option.Rel (Finding.Alike a b) (own? source (cursor.graft a) (statement.map (Cursor.graft a)))
      (own? source (cursor.graft b) (statement.map (Cursor.graft b))) := by
  have leaf : ∀ {left right : Finding}, left = right → right.members = none →
      Option.Rel (Finding.Alike a b) (some left) (some right) :=
    fun same bare => .some (Finding.alike_of_leaf same bare)
  cases form cursor with
  | interface is =>
      simp only [own?, Cursor.kind_graft, is]
      exact .some (interface_alike alike source cursor statement)
  | typeAlias is =>
      simp only [own?, Cursor.kind_graft, is]
      exact leaf (by simp [typeAlias, Source.signature, alike.leaf_graft]) rfl
  | enum is =>
      simp only [own?, Cursor.kind_graft, is]
      exact .some (enum_alike alike source cursor statement)
  | nameSpace is =>
      have moved : ∀ base, (cursor.graft base).kind ∈ nameSpaceKinds := fun _ => is
      rw [own?_of_nameSpace (moved a), own?_of_nameSpace (moved b)]
      exact .some (nameSpace_alike alike source cursor statement)
  | classDeclaration is =>
      simp only [own?, Cursor.kind_graft, is]
      exact .some (JavaScript.classDeclaration_alike alike source cursor statement)
  | function is =>
      simp only [own?, Cursor.kind_graft, is]
      exact leaf (JavaScript.function_graft alike source cursor statement) rfl
  | method is =>
      have moved : ∀ base, (cursor.graft base).kind ∈ methodKinds := fun _ => is
      rw [own?_of_method (moved a), own?_of_method (moved b)]
      exact leaf (by simp [bodilessMember, alike.leaf_graft]) rfl
  | property is =>
      simp only [own?, Cursor.kind_graft, is]
      exact leaf (by simp [bodilessMember, alike.leaf_graft]) rfl
  | field is =>
      simp only [own?, Cursor.kind_graft, is]
      exact leaf (JavaScript.field_graft alike source cursor) rfl
  | enumMember is =>
      have moved : ∀ base, (cursor.graft base).kind ∈ enumMemberKinds := fun _ => is
      rw [own?_of_enumMember (moved a), own?_of_enumMember (moved b)]
      exact leaf (by simp [enumMember, alike.leaf_graft]) rfl
  | other no =>
      have moved : ∀ base, (cursor.graft base).kind ∉ declaringKinds := fun _ => no
      rw [own?_of_other (moved a), own?_of_other (moved b)]
      exact .none

theorem findings_alike (alike : a.Alike b) (source : Source) (cursor : Cursor) (kind : Kind) (depth : Nat) :
    List.Forall₂ (Finding.Alike a b) (findings source (cursor.graft a) kind depth)
      (findings source (cursor.graft b) kind depth) := by
  have inherited := JavaScript.declarations_alike alike source cursor none
  have exported : Option.Rel (Finding.Alike a b) (exported? source (cursor.graft a))
      (exported? source (cursor.graft b)) := by
    rw [exported?, exported?]
    rw [Cursor.field?_graft, Cursor.field?_graft]
    cases cursor.field? "declaration" with
    | none => exact .none
    | some declaration => exact own_alike alike source declaration (some cursor)
  have own : Option.Rel (Finding.Alike a b)
      (if cursor.kind = "export_statement" then exported? source (cursor.graft a) else own? source (cursor.graft a) none)
      (if cursor.kind = "export_statement" then exported? source (cursor.graft b)
        else own? source (cursor.graft b) none) := by
    split
    · exact exported
    · exact own_alike alike source cursor none
  unfold findings
  rw [Cursor.kind_graft, Cursor.kind_graft]
  dsimp only
  generalize (if cursor.kind = "export_statement" then exported? source (cursor.graft a)
    else own? source (cursor.graft a) none) = left at own ⊢
  generalize (if cursor.kind = "export_statement" then exported? source (cursor.graft b)
    else own? source (cursor.graft b) none) = right at own ⊢
  cases own with
  | none => exact inherited
  | some same => exact .cons same .nil

end TypeScript

theorem blind_of_language (language : Language) (alike : a.Alike b) : language.grammar.Blind a b := by
  cases language with
  | go => exact ⟨fun _ _ => rfl, Go.findings_alike alike⟩
  | python => exact ⟨fun _ _ => rfl, Python.findings_alike alike⟩
  | java => exact ⟨fun _ _ => rfl, Java.findings_alike alike⟩
  | javaScript => exact ⟨fun _ _ => rfl, fun source cursor _ _ => JavaScript.declarations_alike alike source cursor none⟩
  | typeScript | tsx => exact ⟨TypeScript.role_alike alike, TypeScript.findings_alike alike⟩
  | swift =>
      refine ⟨fun source cursor => ?_, Swift.findings_alike alike⟩
      exact (Swift.role_graft a source cursor).trans (Swift.role_graft b source cursor).symm
  | c =>
      refine ⟨fun source cursor => ?_, fun source cursor kind _ => C.declarations_alike alike source cursor kind⟩
      exact (C.role_graft a source cursor).trans (C.role_graft b source cursor).symm
  | cpp => exact ⟨Cpp.role_alike alike, fun source cursor kind _ => Cpp.declarations_alike alike source cursor kind⟩

end Grammar

end CodeOutline
