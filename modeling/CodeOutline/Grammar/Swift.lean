import CodeOutline.Grammar

set_option autoImplicit false

namespace CodeOutline.Grammar

namespace Swift

-- The grammar has one kind for all nominal types; the keyword tells them apart.
def typeKeyword (source : Source) (cursor : Cursor) : String :=
  match cursor.field? "declaration_kind" with
  | some keyword => source.text keyword
  | none =>
      ((cursor.childOfKinds? ["struct", "enum", "extension", "actor", "class"]).map (·.kind)).getD ""

def typeKind (source : Source) (cursor : Cursor) : Kind :=
  match typeKeyword source cursor with
  | "struct" => .struct
  | "enum" => .enum
  | "extension" => .extension
  | _ => .classType

def role (source : Source) (cursor : Cursor) : Role :=
  if cursor.isComment then .skip
  else
    match cursor.kind with
    | "import_declaration" => .declares .importLine
    | "class_declaration" => .declares (typeKind source cursor)
    | "protocol_declaration" => .declares .interface
    | "function_declaration" => .declares .function
    | "protocol_function_declaration" => .declares .method
    | "init_declaration" => .declares .initializer
    | "deinit_declaration" => .declares .deinitializer
    | "subscript_declaration" => .declares .subscript
    | "property_declaration" | "protocol_property_declaration" => .declares .var
    | "typealias_declaration" | "associatedtype_declaration" => .declares .typeAlias
    | "enum_entry" => .declares .enumConstant
    | "function_body" | "computed_property" | "statements" | "lambda_literal" => .skip
    | _ => .enter

def blockKinds : List String :=
  ["class_body", "enum_class_body", "protocol_body", "function_body", "computed_property"]

def header (source : Source) (cursor : Cursor) : String :=
  source.header cursor (cursor.childOfKinds? blockKinds)

def modifiers (source : Source) (cursor : Cursor) : List String :=
  source.modifierWords (cursor.childOfKind? "modifiers")

def asWritten (source : Source) (cursor : Cursor) (kind : Kind) : Finding :=
  let text := source.spaced cursor
  source.leaf cursor ((source.fieldText? cursor "name").getD text) kind { signature := some text }

def heritage? (source : Source) (cursor : Cursor) : Option String :=
  match cursor.childrenOfKind "inheritance_specifier" with
  | [] => none
  | specifiers => some (String.intercalate ", " (specifiers.map source.spaced))

def typeDeclaration (source : Source) (cursor : Cursor) (kind : Kind) : Finding :=
  ⟨source.declare cursor (source.nameAt cursor) kind
      { signature := some (header source cursor)
        modifiers := modifiers source cursor
        heritage := heritage? source cursor },
    cursor.field? "body"⟩

def callable (source : Source) (cursor : Cursor) (name : String) (kind : Kind) : Finding :=
  let hasBody := (cursor.childOfKinds? ["function_body", "computed_property"]).isSome
  source.leaf cursor name kind
    { signature := some (header source cursor)
      modifiers := modifiers source cursor
      body := some (if hasBody then .elided else .bare) }

def function (source : Source) (cursor : Cursor) (depth : Nat) : Finding :=
  callable source cursor (source.nameAt cursor) (if 0 < depth then .method else .function)

def specialName : Kind → String
  | .initializer => "init"
  | .deinitializer => "deinit"
  | _ => "subscript"

-- The header of a property ends before its value and before its accessors; a protocol shows which
-- accessors it asks for.
def property (source : Source) (cursor : Cursor) (depth : Nat) : Finding :=
  let signature :=
    if cursor.kind = "protocol_property_declaration" then source.spaced cursor
    else source.header cursor (cursor.childOfKinds? ["=", "computed_property", "willset_didset_block"])
  source.leaf cursor (source.nameAt cursor) (if 0 < depth then .field else .var)
    { signature := some signature, modifiers := modifiers source cursor }

def typeAlias (source : Source) (cursor : Cursor) : Finding :=
  source.leaf cursor (source.nameAt cursor) .typeAlias
    { signature := some (source.spaced cursor), modifiers := modifiers source cursor }

def enumEntry (source : Source) (cursor : Cursor) : Finding :=
  let text := source.spaced cursor
  let name := (source.fieldText? cursor "name").getD (Text.trim (Text.trimStartCopies "case" text))
  source.leaf cursor name .enumConstant { signature := some text }

def findings (source : Source) (cursor : Cursor) (kind : Kind) (depth : Nat) : List Finding :=
  match cursor.kind with
  | "import_declaration" | "associatedtype_declaration" => [asWritten source cursor kind]
  | "class_declaration" | "protocol_declaration" => [typeDeclaration source cursor kind]
  | "function_declaration" | "protocol_function_declaration" => [function source cursor depth]
  | "init_declaration" | "deinit_declaration" | "subscript_declaration" =>
      [callable source cursor (specialName kind) kind]
  | "property_declaration" | "protocol_property_declaration" => [property source cursor depth]
  | "typealias_declaration" => [typeAlias source cursor]
  | "enum_entry" => [enumEntry source cursor]
  | _ => []

def lineKinds : List String :=
  ["import_declaration", "associatedtype_declaration"]

def typeKinds : List String :=
  ["class_declaration", "protocol_declaration"]

def functionKinds : List String :=
  ["function_declaration", "protocol_function_declaration"]

def specialKinds : List String :=
  ["init_declaration", "deinit_declaration", "subscript_declaration"]

def propertyKinds : List String :=
  ["property_declaration", "protocol_property_declaration"]

def declaringKinds : List String :=
  lineKinds ++ typeKinds ++ functionKinds ++ specialKinds ++ propertyKinds ++ ["typealias_declaration", "enum_entry"]

inductive Form (cursor : Cursor) : Prop where
  | line (is : cursor.kind ∈ lineKinds)
  | type (is : cursor.kind ∈ typeKinds)
  | function (is : cursor.kind ∈ functionKinds)
  | special (is : cursor.kind ∈ specialKinds)
  | property (is : cursor.kind ∈ propertyKinds)
  | typeAlias (is : cursor.kind = "typealias_declaration")
  | enumEntry (is : cursor.kind = "enum_entry")
  | other (no : cursor.kind ∉ declaringKinds)

theorem form (cursor : Cursor) : Form cursor := by
  by_cases line : cursor.kind ∈ lineKinds
  · exact .line line
  by_cases type : cursor.kind ∈ typeKinds
  · exact .type type
  by_cases function : cursor.kind ∈ functionKinds
  · exact .function function
  by_cases special : cursor.kind ∈ specialKinds
  · exact .special special
  by_cases property : cursor.kind ∈ propertyKinds
  · exact .property property
  by_cases typeAlias : cursor.kind = "typealias_declaration"
  · exact .typeAlias typeAlias
  by_cases enumEntry : cursor.kind = "enum_entry"
  · exact .enumEntry enumEntry
  exact .other (by simp [declaringKinds, *])

variable {source : Source} {cursor : Cursor} {kind : Kind} {depth : Nat}

theorem findings_of_line (is : cursor.kind ∈ lineKinds) :
    findings source cursor kind depth = [asWritten source cursor kind] := by
  simp only [lineKinds, List.mem_cons, List.not_mem_nil, or_false] at is
  rcases is with is | is <;> simp only [findings, is]

theorem findings_of_type (is : cursor.kind ∈ typeKinds) :
    findings source cursor kind depth = [typeDeclaration source cursor kind] := by
  simp only [typeKinds, List.mem_cons, List.not_mem_nil, or_false] at is
  rcases is with is | is <;> simp only [findings, is]

theorem findings_of_function (is : cursor.kind ∈ functionKinds) :
    findings source cursor kind depth = [function source cursor depth] := by
  simp only [functionKinds, List.mem_cons, List.not_mem_nil, or_false] at is
  rcases is with is | is <;> simp only [findings, is]

theorem findings_of_special (is : cursor.kind ∈ specialKinds) :
    findings source cursor kind depth = [callable source cursor (specialName kind) kind] := by
  simp only [specialKinds, List.mem_cons, List.not_mem_nil, or_false] at is
  rcases is with is | is | is <;> simp only [findings, is]

theorem findings_of_property (is : cursor.kind ∈ propertyKinds) :
    findings source cursor kind depth = [property source cursor depth] := by
  simp only [propertyKinds, List.mem_cons, List.not_mem_nil, or_false] at is
  rcases is with is | is <;> simp only [findings, is]

theorem findings_of_other (no : cursor.kind ∉ declaringKinds) : findings source cursor kind depth = [] := by
  simp only [declaringKinds, lineKinds, typeKinds, functionKinds, specialKinds, propertyKinds, List.mem_append,
    List.mem_cons, List.not_mem_nil, or_false, not_or] at no
  simp [findings, no]

inductive Built (source : Source) (cursor : Cursor) (kind : Kind) (depth : Nat) : Finding → Prop where
  | line (is : cursor.kind ∈ lineKinds) : Built source cursor kind depth (asWritten source cursor kind)
  | type (is : cursor.kind ∈ typeKinds) : Built source cursor kind depth (typeDeclaration source cursor kind)
  | function (is : cursor.kind ∈ functionKinds) : Built source cursor kind depth (function source cursor depth)
  | special (is : cursor.kind ∈ specialKinds) :
      Built source cursor kind depth (callable source cursor (specialName kind) kind)
  | property (is : cursor.kind ∈ propertyKinds) : Built source cursor kind depth (property source cursor depth)
  | typeAlias (is : cursor.kind = "typealias_declaration") : Built source cursor kind depth (typeAlias source cursor)
  | enumEntry (is : cursor.kind = "enum_entry") : Built source cursor kind depth (enumEntry source cursor)

theorem built_of_mem {finding : Finding} (member : finding ∈ findings source cursor kind depth) :
    Built source cursor kind depth finding := by
  cases form cursor with
  | line is =>
      rw [findings_of_line is] at member
      exact List.mem_singleton.mp member ▸ .line is
  | type is =>
      rw [findings_of_type is] at member
      exact List.mem_singleton.mp member ▸ .type is
  | function is =>
      rw [findings_of_function is] at member
      exact List.mem_singleton.mp member ▸ .function is
  | special is =>
      rw [findings_of_special is] at member
      exact List.mem_singleton.mp member ▸ .special is
  | property is =>
      rw [findings_of_property is] at member
      exact List.mem_singleton.mp member ▸ .property is
  | typeAlias is =>
      simp only [findings, is] at member
      exact List.mem_singleton.mp member ▸ .typeAlias is
  | enumEntry is =>
      simp only [findings, is] at member
      exact List.mem_singleton.mp member ▸ .enumEntry is
  | other no =>
      rw [findings_of_other no] at member
      cases member

theorem members_smaller (source : Source) (cursor : Cursor) (kind : Kind) (depth : Nat) :
    MembersSmaller (findings source cursor kind depth) cursor.size := by
  intro finding member members found
  cases built_of_mem member with
  | type => exact Cursor.size_of_field? found
  | line | function | special | property | typeAlias | enumEntry => cases found

end Swift

def swift : Grammar :=
  ⟨Swift.role, Swift.findings, Swift.members_smaller⟩

end CodeOutline.Grammar
