import CodeOutline.Grammar.JavaScript

set_option autoImplicit false

namespace CodeOutline.Grammar

namespace TypeScript

open JavaScript (exportWords place)

def role (source : Source) (cursor : Cursor) : Role :=
  match cursor.kind with
  | "interface_declaration" => .declares .interface
  | "type_alias_declaration" => .declares .typeAlias
  | "enum_declaration" => .declares .enum
  | "internal_module" | "module" => .declares .nameSpace
  | "abstract_class_declaration" => .declares .classType
  | "function_signature" => .declares .function
  | "method_signature" | "abstract_method_signature" | "index_signature" | "call_signature"
  | "construct_signature" => .declares .method
  | "property_signature" | "public_field_definition" => .declares .field
  | "enum_assignment" | "property_identifier" =>
      if cursor.isUnder "enum_body" then .declares .enumConstant else JavaScript.role source cursor
  | "type_annotation" | "type_arguments" | "type_parameters" => .skip
  | _ => JavaScript.role source cursor

def interface (source : Source) (cursor : Cursor) (statement : Option Cursor) : Finding :=
  let heritage := cursor.childOfKind? "extends_type_clause"
  ⟨source.declare (place cursor statement) (source.nameAt cursor) .interface
      { signature := some <| source.signature
          [.word (exportWords statement), .word "interface ", .field cursor "name",
            .field cursor "type_parameters", .excerpt " " heritage ""]
        heritage := heritage.map source.spaced },
    cursor.field? "body"⟩

def typeAlias (source : Source) (cursor : Cursor) (statement : Option Cursor) : Finding :=
  source.leaf (place cursor statement) (source.nameAt cursor) .typeAlias
    { signature := some <| source.signature
        [.word (exportWords statement), .word "type ", .field cursor "name", .field cursor "type_parameters",
          .fieldAfter " = " cursor "value", .word ";"] }

def enum (source : Source) (cursor : Cursor) (statement : Option Cursor) : Finding :=
  ⟨source.declare (place cursor statement) (source.nameAt cursor) .enum
      { signature := some <| source.signature
          [.word (exportWords statement), .word (if cursor.hasChild "const" then "const enum " else "enum "),
            .field cursor "name"] },
    cursor.field? "body"⟩

def enumMember (source : Source) (cursor : Cursor) : Finding :=
  source.leaf cursor ((source.fieldText? cursor "name").getD (source.text cursor)) .enumConstant
    { signature := some (source.spaced cursor ++ ",") }

def nameSpace (source : Source) (cursor : Cursor) (statement : Option Cursor) : Finding :=
  let body := cursor.field? "body"
  ⟨source.declare (place cursor statement) (source.nameAt cursor) .nameSpace
      { signature := some (exportWords statement ++ source.header cursor body)
        body := some (if body.isSome then .members else .bare) },
    body⟩

def bodilessMember (source : Source) (cursor : Cursor) (kind : Kind) : Finding :=
  let text := source.spaced cursor
  source.leaf cursor ((source.fieldText? cursor "name").getD text) kind
    { signature := some (Text.trimEndWhile (fun c => c == ',' || c == ';') text ++ ";")
      body := some .bare }

def own? (source : Source) (cursor : Cursor) (statement : Option Cursor) : Option Finding :=
  match cursor.kind with
  | "interface_declaration" => some (interface source cursor statement)
  | "type_alias_declaration" => some (typeAlias source cursor statement)
  | "enum_declaration" => some (enum source cursor statement)
  | "internal_module" | "module" => some (nameSpace source cursor statement)
  | "abstract_class_declaration" => some (JavaScript.classDeclaration source cursor statement)
  | "function_signature" => some (JavaScript.function source cursor statement)
  | "method_signature" | "abstract_method_signature" | "index_signature" | "call_signature"
  | "construct_signature" => some (bodilessMember source cursor .method)
  | "property_signature" => some (bodilessMember source cursor .field)
  | "public_field_definition" => some (JavaScript.field source cursor)
  | "enum_assignment" | "property_identifier" => some (enumMember source cursor)
  | _ => none

def exported? (source : Source) (cursor : Cursor) : Option Finding :=
  (cursor.field? "declaration").bind fun declaration => own? source declaration (some cursor)

def findings (source : Source) (cursor : Cursor) (_ : Kind) (_ : Nat) : List Finding :=
  let own := if cursor.kind = "export_statement" then exported? source cursor else own? source cursor none
  match own with
  | some finding => [finding]
  | none => JavaScript.declarations source cursor none

def nameSpaceKinds : List String :=
  ["internal_module", "module"]

def methodKinds : List String :=
  ["method_signature", "abstract_method_signature", "index_signature", "call_signature", "construct_signature"]

def enumMemberKinds : List String :=
  ["enum_assignment", "property_identifier"]

def declaringKinds : List String :=
  nameSpaceKinds ++ methodKinds ++ enumMemberKinds ++
    ["interface_declaration", "type_alias_declaration", "enum_declaration", "abstract_class_declaration",
      "function_signature", "property_signature", "public_field_definition"]

inductive Form (cursor : Cursor) : Prop where
  | interface (is : cursor.kind = "interface_declaration")
  | typeAlias (is : cursor.kind = "type_alias_declaration")
  | enum (is : cursor.kind = "enum_declaration")
  | nameSpace (is : cursor.kind ∈ nameSpaceKinds)
  | classDeclaration (is : cursor.kind = "abstract_class_declaration")
  | function (is : cursor.kind = "function_signature")
  | method (is : cursor.kind ∈ methodKinds)
  | property (is : cursor.kind = "property_signature")
  | field (is : cursor.kind = "public_field_definition")
  | enumMember (is : cursor.kind ∈ enumMemberKinds)
  | other (no : cursor.kind ∉ declaringKinds)

theorem form (cursor : Cursor) : Form cursor := by
  by_cases interface : cursor.kind = "interface_declaration"
  · exact .interface interface
  by_cases typeAlias : cursor.kind = "type_alias_declaration"
  · exact .typeAlias typeAlias
  by_cases enum : cursor.kind = "enum_declaration"
  · exact .enum enum
  by_cases nameSpace : cursor.kind ∈ nameSpaceKinds
  · exact .nameSpace nameSpace
  by_cases classDeclaration : cursor.kind = "abstract_class_declaration"
  · exact .classDeclaration classDeclaration
  by_cases function : cursor.kind = "function_signature"
  · exact .function function
  by_cases method : cursor.kind ∈ methodKinds
  · exact .method method
  by_cases property : cursor.kind = "property_signature"
  · exact .property property
  by_cases field : cursor.kind = "public_field_definition"
  · exact .field field
  by_cases enumMember : cursor.kind ∈ enumMemberKinds
  · exact .enumMember enumMember
  exact .other (by simp [declaringKinds, *])

section Own

variable {source : Source} {cursor : Cursor} {statement : Option Cursor}

theorem own?_of_nameSpace (is : cursor.kind ∈ nameSpaceKinds) :
    own? source cursor statement = some (nameSpace source cursor statement) := by
  simp only [nameSpaceKinds, List.mem_cons, List.not_mem_nil, or_false] at is
  rcases is with is | is <;> simp only [own?, is]

theorem own?_of_method (is : cursor.kind ∈ methodKinds) :
    own? source cursor statement = some (bodilessMember source cursor .method) := by
  simp only [methodKinds, List.mem_cons, List.not_mem_nil, or_false] at is
  rcases is with is | is | is | is | is <;> simp only [own?, is]

theorem own?_of_enumMember (is : cursor.kind ∈ enumMemberKinds) :
    own? source cursor statement = some (enumMember source cursor) := by
  simp only [enumMemberKinds, List.mem_cons, List.not_mem_nil, or_false] at is
  rcases is with is | is <;> simp only [own?, is]

theorem own?_of_other (no : cursor.kind ∉ declaringKinds) : own? source cursor statement = none := by
  simp only [declaringKinds, nameSpaceKinds, methodKinds, enumMemberKinds, List.mem_append, List.mem_cons,
    List.not_mem_nil, or_false, not_or] at no
  simp [own?, no]

inductive Built (source : Source) (cursor : Cursor) (statement : Option Cursor) : Finding → Prop where
  | interface (is : cursor.kind = "interface_declaration") :
      Built source cursor statement (interface source cursor statement)
  | typeAlias (is : cursor.kind = "type_alias_declaration") :
      Built source cursor statement (typeAlias source cursor statement)
  | enum (is : cursor.kind = "enum_declaration") : Built source cursor statement (enum source cursor statement)
  | nameSpace (is : cursor.kind ∈ nameSpaceKinds) : Built source cursor statement (nameSpace source cursor statement)
  | classDeclaration (is : cursor.kind = "abstract_class_declaration") :
      Built source cursor statement (JavaScript.classDeclaration source cursor statement)
  | function (is : cursor.kind = "function_signature") :
      Built source cursor statement (JavaScript.function source cursor statement)
  | method (is : cursor.kind ∈ methodKinds) : Built source cursor statement (bodilessMember source cursor .method)
  | property (is : cursor.kind = "property_signature") :
      Built source cursor statement (bodilessMember source cursor .field)
  | field (is : cursor.kind = "public_field_definition") :
      Built source cursor statement (JavaScript.field source cursor)
  | enumMember (is : cursor.kind ∈ enumMemberKinds) : Built source cursor statement (enumMember source cursor)

theorem built_of_own? {finding : Finding} (made : own? source cursor statement = some finding) :
    Built source cursor statement finding := by
  cases form cursor with
  | interface is =>
      simp only [own?, is] at made
      exact Option.some.inj made ▸ .interface is
  | typeAlias is =>
      simp only [own?, is] at made
      exact Option.some.inj made ▸ .typeAlias is
  | enum is =>
      simp only [own?, is] at made
      exact Option.some.inj made ▸ .enum is
  | nameSpace is =>
      rw [own?_of_nameSpace is] at made
      exact Option.some.inj made ▸ .nameSpace is
  | classDeclaration is =>
      simp only [own?, is] at made
      exact Option.some.inj made ▸ .classDeclaration is
  | function is =>
      simp only [own?, is] at made
      exact Option.some.inj made ▸ .function is
  | method is =>
      rw [own?_of_method is] at made
      exact Option.some.inj made ▸ .method is
  | property is =>
      simp only [own?, is] at made
      exact Option.some.inj made ▸ .property is
  | field is =>
      simp only [own?, is] at made
      exact Option.some.inj made ▸ .field is
  | enumMember is =>
      rw [own?_of_enumMember is] at made
      exact Option.some.inj made ▸ .enumMember is
  | other no =>
      rw [own?_of_other no] at made
      cases made

end Own

theorem members_of_own? {source : Source} {cursor members : Cursor} {statement : Option Cursor} {finding : Finding}
    (made : own? source cursor statement = some finding) (found : finding.members = some members) :
    members.size < cursor.size := by
  cases built_of_own? made with
  | interface | enum | nameSpace | classDeclaration => exact Cursor.size_of_field? found
  | typeAlias | function | method | property | field | enumMember => cases found

theorem members_smaller (source : Source) (cursor : Cursor) (kind : Kind) (depth : Nat) :
    MembersSmaller (findings source cursor kind depth) cursor.size := by
  unfold findings
  dsimp only
  split
  · rename_i finding own
    refine .single fun members found => ?_
    split at own
    · obtain ⟨declaration, inside, made⟩ := Option.bind_eq_some_iff.mp own
      exact Nat.lt_trans (members_of_own? made found) (Cursor.size_of_field? inside)
    · exact members_of_own? own found
  · exact JavaScript.members_of_declarations source cursor none

end TypeScript

def typeScript : Grammar :=
  ⟨TypeScript.role, TypeScript.findings, TypeScript.members_smaller⟩

end CodeOutline.Grammar
