import CodeOutline.Grammar

set_option autoImplicit false

namespace CodeOutline.Grammar

namespace Java

def role (_ : Source) (cursor : Cursor) : Role :=
  if cursor.isComment then .skip
  else
    match cursor.kind with
    | "package_declaration" => .declares .package
    | "import_declaration" => .declares .importLine
    | "class_declaration" | "record_declaration" => .declares .classType
    | "interface_declaration" | "annotation_type_declaration" => .declares .interface
    | "enum_declaration" => .declares .enum
    | "method_declaration" | "annotation_type_element_declaration" => .declares .method
    | "constructor_declaration" | "compact_constructor_declaration" => .declares .initializer
    | "field_declaration" | "constant_declaration" => .declares .field
    | "enum_constant" => .declares .enumConstant
    | "modifiers" | "block" | "static_initializer" | "constructor_body" => .skip
    | _ => .enter

def modifiers (source : Source) (cursor : Cursor) : List String :=
  source.modifierWords (cursor.childOfKind? "modifiers")

def isHeritage (cursor : Cursor) : Bool :=
  ["superclass", "super_interfaces", "extends_interfaces", "permits"].contains cursor.kind

def heritage? (source : Source) (cursor : Cursor) : Option String :=
  match cursor.children.filter isHeritage with
  | [] => none
  | clauses => some (String.intercalate " " (clauses.map source.trimmed))

def pathLine (source : Source) (cursor : Cursor) : Finding :=
  let path := cursor.childOfKinds? ["scoped_identifier", "identifier"]
  source.leaf cursor ((path.map source.text).getD "")
    (if cursor.kind = "package_declaration" then .package else .importLine)
    { signature := some (source.spaced cursor) }

def typeDeclaration (source : Source) (cursor : Cursor) (kind : Kind) (keyword : String) : Finding :=
  let modifiers := modifiers source cursor
  let heritage := heritage? source cursor
  let header := source.signature
    [.modifiers modifiers, .word keyword, .field cursor "name", .field cursor "type_parameters",
      .field cursor "parameters"]
  ⟨source.declare cursor (source.nameAt cursor) kind
      { signature := some (header ++ (heritage.map (" " ++ ·)).getD "")
        modifiers := modifiers
        heritage := heritage },
    cursor.field? "body"⟩

-- A method without a body ends with a semicolon, and an element of an annotation type shows an empty
-- parameter list.
def method (source : Source) (cursor : Cursor) : Finding :=
  let modifiers := modifiers source cursor
  let hasBody := (cursor.field? "body").isSome
  let header := source.signature
    [.modifiers modifiers, .excerpt "" (cursor.field? "type_parameters") " ",
      .excerpt "" (cursor.field? "type") " ", .field cursor "name", .field cursor "parameters",
      .word (if cursor.kind = "annotation_type_element_declaration" then "()" else ""),
      .field cursor "dimensions", .excerpt " " (cursor.childOfKind? "throws") "",
      .fieldAfter " default " cursor "value"]
  source.leaf cursor (source.nameAt cursor) .method
    { signature := some (if hasBody then header else header ++ ";")
      modifiers := modifiers
      body := some (if hasBody then .elided else .bare) }

def constructor (source : Source) (cursor : Cursor) : Finding :=
  let modifiers := modifiers source cursor
  source.leaf cursor (source.nameAt cursor) .initializer
    { signature := some <| source.signature
        [.modifiers modifiers, .excerpt "" (cursor.field? "type_parameters") " ", .field cursor "name",
          .field cursor "parameters", .excerpt " " (cursor.childOfKind? "throws") ""]
      modifiers := modifiers }

def fields (source : Source) (cursor : Cursor) : List Finding :=
  let modifiers := modifiers source cursor
  let type := cursor.field? "type"
  (cursor.labelled "declarator").map fun declarator =>
    source.leaf cursor (source.nameAt declarator) .field
      { signature := some <| source.signature
          [.modifiers modifiers, .excerpt "" type " ", .field declarator "name", .field declarator "dimensions",
            .fieldAfter " = " declarator "value", .word ";"]
        modifiers := modifiers }

def enumConstant (source : Source) (cursor : Cursor) : Finding :=
  source.leaf cursor (source.nameAt cursor) .enumConstant
    { signature := some <| source.signature [.field cursor "name", .field cursor "arguments", .word ","] }

def findings (source : Source) (cursor : Cursor) (_ : Kind) (_ : Nat) : List Finding :=
  match cursor.kind with
  | "package_declaration" | "import_declaration" => [pathLine source cursor]
  | "class_declaration" => [typeDeclaration source cursor .classType "class "]
  | "record_declaration" => [typeDeclaration source cursor .classType "record "]
  | "interface_declaration" => [typeDeclaration source cursor .interface "interface "]
  | "annotation_type_declaration" => [typeDeclaration source cursor .interface "@interface "]
  | "enum_declaration" => [typeDeclaration source cursor .enum "enum "]
  | "method_declaration" | "annotation_type_element_declaration" => [method source cursor]
  | "constructor_declaration" | "compact_constructor_declaration" => [constructor source cursor]
  | "field_declaration" | "constant_declaration" => fields source cursor
  | "enum_constant" => [enumConstant source cursor]
  | _ => []

def pathKinds : List String :=
  ["package_declaration", "import_declaration"]

def typeKinds : List String :=
  ["class_declaration", "record_declaration", "interface_declaration", "annotation_type_declaration",
    "enum_declaration"]

def methodKinds : List String :=
  ["method_declaration", "annotation_type_element_declaration"]

def constructorKinds : List String :=
  ["constructor_declaration", "compact_constructor_declaration"]

def fieldKinds : List String :=
  ["field_declaration", "constant_declaration"]

def declaringKinds : List String :=
  pathKinds ++ typeKinds ++ methodKinds ++ constructorKinds ++ fieldKinds ++ ["enum_constant"]

inductive Form (cursor : Cursor) : Prop where
  | path (is : cursor.kind ∈ pathKinds)
  | type (is : cursor.kind ∈ typeKinds)
  | method (is : cursor.kind ∈ methodKinds)
  | constructor (is : cursor.kind ∈ constructorKinds)
  | fields (is : cursor.kind ∈ fieldKinds)
  | enumConstant (is : cursor.kind = "enum_constant")
  | other (no : cursor.kind ∉ declaringKinds)

theorem form (cursor : Cursor) : Form cursor := by
  by_cases path : cursor.kind ∈ pathKinds
  · exact .path path
  by_cases type : cursor.kind ∈ typeKinds
  · exact .type type
  by_cases method : cursor.kind ∈ methodKinds
  · exact .method method
  by_cases constructor : cursor.kind ∈ constructorKinds
  · exact .constructor constructor
  by_cases fields : cursor.kind ∈ fieldKinds
  · exact .fields fields
  by_cases enumConstant : cursor.kind = "enum_constant"
  · exact .enumConstant enumConstant
  exact .other (by simp [declaringKinds, *])

variable {cursor : Cursor} {source : Source} {kind : Kind} {depth : Nat}

theorem findings_of_path (is : cursor.kind ∈ pathKinds) :
    findings source cursor kind depth = [pathLine source cursor] := by
  simp only [pathKinds, List.mem_cons, List.not_mem_nil, or_false] at is
  rcases is with is | is <;> simp only [findings, is]

theorem findings_of_type {name : String} (is : name ∈ typeKinds) :
    ∃ declared keyword, declared.defaultBody = .members ∧ ∀ cursor : Cursor, cursor.kind = name →
      ∀ source kind depth, findings source cursor kind depth = [typeDeclaration source cursor declared keyword] := by
  simp only [typeKinds, List.mem_cons, List.not_mem_nil, or_false] at is
  rcases is with rfl | rfl | rfl | rfl | rfl
  · exact ⟨.classType, "class ", rfl, fun cursor is _ _ _ => by simp only [findings, is]⟩
  · exact ⟨.classType, "record ", rfl, fun cursor is _ _ _ => by simp only [findings, is]⟩
  · exact ⟨.interface, "interface ", rfl, fun cursor is _ _ _ => by simp only [findings, is]⟩
  · exact ⟨.interface, "@interface ", rfl, fun cursor is _ _ _ => by simp only [findings, is]⟩
  · exact ⟨.enum, "enum ", rfl, fun cursor is _ _ _ => by simp only [findings, is]⟩

theorem findings_of_method (is : cursor.kind ∈ methodKinds) :
    findings source cursor kind depth = [method source cursor] := by
  simp only [methodKinds, List.mem_cons, List.not_mem_nil, or_false] at is
  rcases is with is | is <;> simp only [findings, is]

theorem findings_of_constructor (is : cursor.kind ∈ constructorKinds) :
    findings source cursor kind depth = [constructor source cursor] := by
  simp only [constructorKinds, List.mem_cons, List.not_mem_nil, or_false] at is
  rcases is with is | is <;> simp only [findings, is]

theorem findings_of_fields (is : cursor.kind ∈ fieldKinds) :
    findings source cursor kind depth = fields source cursor := by
  simp only [fieldKinds, List.mem_cons, List.not_mem_nil, or_false] at is
  rcases is with is | is <;> simp only [findings, is]

theorem findings_of_other (no : cursor.kind ∉ declaringKinds) : findings source cursor kind depth = [] := by
  simp only [declaringKinds, pathKinds, typeKinds, methodKinds, constructorKinds, fieldKinds, List.mem_append,
    List.mem_cons, List.not_mem_nil, or_false, not_or] at no
  simp [findings, no]

inductive Built (source : Source) (cursor : Cursor) : Finding → Prop where
  | path (is : cursor.kind ∈ pathKinds) : Built source cursor (pathLine source cursor)
  | type {kind : Kind} {keyword : String} (is : cursor.kind ∈ typeKinds) (block : kind.defaultBody = .members) :
      Built source cursor (typeDeclaration source cursor kind keyword)
  | method (is : cursor.kind ∈ methodKinds) : Built source cursor (method source cursor)
  | constructor (is : cursor.kind ∈ constructorKinds) : Built source cursor (constructor source cursor)
  | field {finding : Finding} (is : cursor.kind ∈ fieldKinds) (member : finding ∈ fields source cursor) :
      Built source cursor finding
  | enumConstant (is : cursor.kind = "enum_constant") : Built source cursor (enumConstant source cursor)

theorem built_of_mem {finding : Finding} (member : finding ∈ findings source cursor kind depth) :
    Built source cursor finding := by
  cases form cursor with
  | path is =>
      rw [findings_of_path is] at member
      exact List.mem_singleton.mp member ▸ .path is
  | type is =>
      obtain ⟨declared, keyword, block, made⟩ := findings_of_type is
      rw [made cursor rfl] at member
      exact List.mem_singleton.mp member ▸ .type is block
  | method is =>
      rw [findings_of_method is] at member
      exact List.mem_singleton.mp member ▸ .method is
  | constructor is =>
      rw [findings_of_constructor is] at member
      exact List.mem_singleton.mp member ▸ .constructor is
  | fields is =>
      rw [findings_of_fields is] at member
      exact .field is member
  | enumConstant is =>
      simp only [findings, is] at member
      exact List.mem_singleton.mp member ▸ .enumConstant is
  | other no =>
      rw [findings_of_other no] at member
      cases member

theorem members_of_fields {finding : Finding} (member : finding ∈ fields source cursor) : finding.members = none := by
  obtain ⟨declarator, _, rfl⟩ := List.mem_map.mp member
  rfl

theorem members_smaller (source : Source) (cursor : Cursor) (kind : Kind) (depth : Nat) :
    MembersSmaller (findings source cursor kind depth) cursor.size := by
  intro finding member members found
  cases built_of_mem member with
  | type => exact Cursor.size_of_field? found
  | field _ among => cases (members_of_fields among).symm.trans found
  | path | method | constructor | enumConstant => cases found

end Java

def java : Grammar :=
  ⟨Java.role, Java.findings, Java.members_smaller⟩

end CodeOutline.Grammar
