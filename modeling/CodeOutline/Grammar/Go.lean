import CodeOutline.Grammar

set_option autoImplicit false

namespace CodeOutline.Grammar

namespace Go

def role (_ : Source) (cursor : Cursor) : Role :=
  if cursor.isComment then .skip
  else
    match cursor.kind with
    | "package_clause" => .declares .package
    | "import_declaration" => .declares .importLine
    | "function_declaration" => .declares .function
    | "method_declaration" => .declares .method
    | "type_declaration" => .declares .type
    | "const_declaration" => .declares .const
    | "var_declaration" => .declares .var
    | "field_declaration" => .declares .field
    | "method_elem" | "method_spec" => .declares .method
    | "type_elem" => .declares .type
    | "block" | "literal_value" => .skip
    | _ => .enter

def packageClause (source : Source) (cursor : Cursor) : Finding :=
  let name := ((cursor.childOfKind? "package_identifier").map source.text).getD ""
  source.leaf cursor name .package { signature := some ("package " ++ name) }

def importDeclaration (source : Source) (cursor : Cursor) : Finding :=
  source.leaf cursor "import" .importLine { signature := some (source.spaced cursor) }

def callableBody (cursor : Cursor) : Body :=
  if (cursor.field? "body").isSome then .elided else .bare

def function (source : Source) (cursor : Cursor) : Finding :=
  source.leaf cursor (source.nameAt cursor) .function
    { signature := some <| source.signature
        [.word "func ", .field cursor "name", .field cursor "type_parameters", .field cursor "parameters",
          .fieldAfter " " cursor "result"]
      body := some (callableBody cursor) }

def method (source : Source) (cursor : Cursor) : Finding :=
  source.leaf cursor (source.nameAt cursor) .method
    { signature := some <| source.signature
        [.word "func ", .excerpt "" (cursor.field? "receiver") " ", .field cursor "name",
          .field cursor "parameters", .fieldAfter " " cursor "result"]
      body := some (callableBody cursor) }

def interfaceLine (source : Source) (cursor : Cursor) (kind : Kind) : Finding :=
  let signature := source.spaced cursor
  source.leaf cursor ((source.fieldText? cursor "name").getD signature) kind
    { signature := some signature, body := some .bare }

-- An embedded field has its type for a name.
def structField (source : Source) (cursor : Cursor) : Finding :=
  let named := (cursor.labelled "name").head?.or (cursor.field? "type")
  source.leaf cursor ((named.map source.text).getD "") .field { signature := some (source.spaced cursor) }

-- The comments above a group lead its first specification, ahead of that one's own comments.
def leadingDocumentation (source : Source) (group : Option String) (first : Cursor) : Option String :=
  group.map fun above =>
    match source.documentation? first with
    | none => above
    | some own => above ++ "\n" ++ own

def documented (source : Source) (group : Option String) : List Cursor → List (Cursor × Option String)
  | [] => []
  | first :: rest => (first, leadingDocumentation source group first) :: rest.map fun spec => (spec, none)

-- What the specifications of a declaration declare. In a group each stands at its own place, otherwise the
-- only one stands at the whole declaration.
def specFindings (source : Source) (cursor : Cursor) (grouped : Bool) (specs : List Cursor)
    (finding : Cursor → Cursor → Option String → Finding) : List Finding :=
  let group := if grouped then source.documentation? cursor else none
  (documented source group specs).map fun (spec, documentation) =>
    finding spec (if grouped then spec else cursor) documentation

def typeForm (type : Option Cursor) : Kind × Piece × Option Cursor :=
  match type with
  | none => (.type, .excerpt " " none "", none)
  | some type =>
      if type.kind = "struct_type" then (.struct, .word " struct", type.childOfKind? "field_declaration_list")
      else if type.kind = "interface_type" then (.interface, .word " interface", some type)
      else (.type, .excerpt " " (some type) "", none)

def typeSpec (source : Source) (spec place : Cursor) (documentation : Option String) : Finding :=
  let (kind, form, members) := typeForm (spec.field? "type")
  ⟨source.declare place (source.nameAt spec) kind
      { signature := some <| source.signature
          [.word "type ", .field spec "name", .field spec "type_parameters", form]
        documentation := documentation
        body := some (if members.isSome then .members else .bare) },
    members⟩

def typeAlias (source : Source) (spec place : Cursor) (documentation : Option String) : Finding :=
  source.leaf place (source.nameAt spec) .typeAlias
    { signature := some <| source.signature
        [.word "type ", .field spec "name", .field spec "type_parameters", .fieldAfter " = " spec "type"]
      documentation := documentation }

def typeSpecs (cursor : Cursor) : List Cursor :=
  cursor.namedChildren.filter fun child => child.kind == "type_spec" || child.kind == "type_alias"

def typeDeclaration (source : Source) (cursor : Cursor) : List Finding :=
  let specs := typeSpecs cursor
  specFindings source cursor (1 < specs.length || cursor.hasChild "(") specs fun spec place documentation =>
    if spec.kind = "type_alias" then typeAlias source spec place documentation
    else typeSpec source spec place documentation

-- A value that spans several rows is left out.
def shownValue (source : Source) (spec : Cursor) : Option Cursor :=
  (spec.field? "value").filter fun value => source.row value.start == source.row value.stop

def valueSpec (source : Source) (kind : Kind) (spec place : Cursor) (documentation : Option String) : Finding :=
  let names := (spec.labelled "name").map source.text
  source.leaf place (names.head?.getD "") kind
    { signature := some <| source.signature
        [.word (if kind = .const then "const" else "var"), .word " ", .word (String.intercalate ", " names),
          .fieldAfter " " spec "type", .excerpt " = " (shownValue source spec) ""]
      documentation := documentation }

def valueSpecsOf (child : Cursor) : List Cursor :=
  if child.kind = "const_spec" ∨ child.kind = "var_spec" then [child]
  else if child.kind = "var_spec_list" then child.childrenOfKind "var_spec"
  else []

def valueSpecs (cursor : Cursor) : List Cursor :=
  cursor.namedChildren.flatMap valueSpecsOf

def valueDeclaration (source : Source) (cursor : Cursor) (kind : Kind) : List Finding :=
  let specs := valueSpecs cursor
  let grouped := cursor.hasChild "(" || cursor.namedChildren.any (·.kind == "var_spec_list") || 1 < specs.length
  specFindings source cursor grouped specs (valueSpec source kind)

def findings (source : Source) (cursor : Cursor) (kind : Kind) (_ : Nat) : List Finding :=
  match cursor.kind with
  | "package_clause" => [packageClause source cursor]
  | "import_declaration" => [importDeclaration source cursor]
  | "function_declaration" => [function source cursor]
  | "method_declaration" => [method source cursor]
  | "type_declaration" => typeDeclaration source cursor
  | "const_declaration" | "var_declaration" => valueDeclaration source cursor kind
  | "field_declaration" => [structField source cursor]
  | "method_elem" | "method_spec" | "type_elem" => [interfaceLine source cursor kind]
  | _ => []

def valueKinds : List String :=
  ["const_declaration", "var_declaration"]

def interfaceKinds : List String :=
  ["method_elem", "method_spec", "type_elem"]

def declaringKinds : List String :=
  valueKinds ++ interfaceKinds ++
    ["package_clause", "import_declaration", "function_declaration", "method_declaration", "type_declaration",
      "field_declaration"]

inductive Form (cursor : Cursor) : Prop where
  | package (is : cursor.kind = "package_clause")
  | imports (is : cursor.kind = "import_declaration")
  | function (is : cursor.kind = "function_declaration")
  | method (is : cursor.kind = "method_declaration")
  | types (is : cursor.kind = "type_declaration")
  | values (is : cursor.kind ∈ valueKinds)
  | field (is : cursor.kind = "field_declaration")
  | interface (is : cursor.kind ∈ interfaceKinds)
  | other (no : cursor.kind ∉ declaringKinds)

theorem form (cursor : Cursor) : Form cursor := by
  by_cases package : cursor.kind = "package_clause"
  · exact .package package
  by_cases imports : cursor.kind = "import_declaration"
  · exact .imports imports
  by_cases function : cursor.kind = "function_declaration"
  · exact .function function
  by_cases method : cursor.kind = "method_declaration"
  · exact .method method
  by_cases types : cursor.kind = "type_declaration"
  · exact .types types
  by_cases values : cursor.kind ∈ valueKinds
  · exact .values values
  by_cases field : cursor.kind = "field_declaration"
  · exact .field field
  by_cases interface : cursor.kind ∈ interfaceKinds
  · exact .interface interface
  exact .other (by simp [declaringKinds, *])

theorem findings_of_valueDeclaration {source : Source} {cursor : Cursor} {kind : Kind} {depth : Nat}
    (is : cursor.kind ∈ valueKinds) : findings source cursor kind depth = valueDeclaration source cursor kind := by
  simp only [valueKinds, List.mem_cons, List.not_mem_nil, or_false] at is
  rcases is with is | is <;> simp only [findings, is]

theorem findings_of_interfaceLine {source : Source} {cursor : Cursor} {kind : Kind} {depth : Nat}
    (is : cursor.kind ∈ interfaceKinds) : findings source cursor kind depth = [interfaceLine source cursor kind] := by
  simp only [interfaceKinds, List.mem_cons, List.not_mem_nil, or_false] at is
  rcases is with is | is | is <;> simp only [findings, is]

theorem findings_of_other {source : Source} {cursor : Cursor} {kind : Kind} {depth : Nat}
    (no : cursor.kind ∉ declaringKinds) : findings source cursor kind depth = [] := by
  simp only [declaringKinds, valueKinds, interfaceKinds, List.mem_append, List.mem_cons, List.not_mem_nil, or_false,
    not_or] at no
  simp [findings, no]

inductive Built (source : Source) (cursor : Cursor) (kind : Kind) : Finding → Prop where
  | package (is : cursor.kind = "package_clause") : Built source cursor kind (packageClause source cursor)
  | imports (is : cursor.kind = "import_declaration") : Built source cursor kind (importDeclaration source cursor)
  | function (is : cursor.kind = "function_declaration") : Built source cursor kind (function source cursor)
  | method (is : cursor.kind = "method_declaration") : Built source cursor kind (method source cursor)
  | type {finding : Finding} (is : cursor.kind = "type_declaration")
      (member : finding ∈ typeDeclaration source cursor) : Built source cursor kind finding
  | value {finding : Finding} (is : cursor.kind ∈ valueKinds)
      (member : finding ∈ valueDeclaration source cursor kind) : Built source cursor kind finding
  | field (is : cursor.kind = "field_declaration") : Built source cursor kind (structField source cursor)
  | interface (is : cursor.kind ∈ interfaceKinds) : Built source cursor kind (interfaceLine source cursor kind)

theorem built_of_mem {source : Source} {cursor : Cursor} {kind : Kind} {depth : Nat} {finding : Finding}
    (member : finding ∈ findings source cursor kind depth) : Built source cursor kind finding := by
  cases form cursor with
  | package is =>
      simp only [findings, is] at member
      exact List.mem_singleton.mp member ▸ .package is
  | imports is =>
      simp only [findings, is] at member
      exact List.mem_singleton.mp member ▸ .imports is
  | function is =>
      simp only [findings, is] at member
      exact List.mem_singleton.mp member ▸ .function is
  | method is =>
      simp only [findings, is] at member
      exact List.mem_singleton.mp member ▸ .method is
  | types is =>
      simp only [findings, is] at member
      exact .type is member
  | values is =>
      rw [findings_of_valueDeclaration is] at member
      exact .value is member
  | field is =>
      simp only [findings, is] at member
      exact List.mem_singleton.mp member ▸ .field is
  | interface is =>
      rw [findings_of_interfaceLine is] at member
      exact List.mem_singleton.mp member ▸ .interface is
  | other no =>
      rw [findings_of_other no] at member
      cases member

theorem spec_of_documented {source : Source} {group : Option String} {specs : List Cursor}
    {pair : Cursor × Option String} (member : pair ∈ documented source group specs) : pair.1 ∈ specs := by
  cases specs with
  | nil => cases member
  | cons first rest =>
      rcases List.mem_cons.mp member with rfl | later
      · exact List.mem_cons_self
      · obtain ⟨spec, within, rfl⟩ := List.mem_map.mp later
        exact List.mem_cons_of_mem _ within

theorem members_of_typeSpec {source : Source} {spec place members : Cursor} {documentation : Option String}
    (found : (typeSpec source spec place documentation).members = some members) : members.size < spec.size := by
  simp only [typeSpec] at found
  unfold typeForm at found
  split at found
  · cases found
  · rename_i type typeFound
    have smaller := Cursor.size_of_field? typeFound
    split at found
    · exact Nat.lt_trans (Cursor.size_of_childOfKind? found) smaller
    · split at found
      · cases found
        exact smaller
      · cases found

theorem members_of_typeDeclaration (source : Source) (cursor : Cursor) :
    MembersSmaller (typeDeclaration source cursor) cursor.size := by
  intro finding member members found
  obtain ⟨pair, within, rfl⟩ := List.mem_map.mp member
  have spec := Cursor.size_of_namedChild (List.mem_filter.mp (spec_of_documented within)).1
  dsimp only at found
  split at found
  · cases found
  · exact Nat.lt_trans (members_of_typeSpec found) spec

theorem members_of_valueDeclaration {source : Source} {cursor : Cursor} {kind : Kind} {finding : Finding}
    (member : finding ∈ valueDeclaration source cursor kind) : finding.members = none := by
  obtain ⟨pair, _, rfl⟩ := List.mem_map.mp member
  rfl

theorem members_smaller (source : Source) (cursor : Cursor) (kind : Kind) (depth : Nat) :
    MembersSmaller (findings source cursor kind depth) cursor.size := by
  intro finding member members found
  cases built_of_mem member with
  | type _ among => exact members_of_typeDeclaration source cursor finding among members found
  | value _ among => cases (members_of_valueDeclaration among).symm.trans found
  | package | imports | function | method | field | interface => cases found

end Go

def go : Grammar :=
  ⟨Go.role, Go.findings, Go.members_smaller⟩

end CodeOutline.Grammar
