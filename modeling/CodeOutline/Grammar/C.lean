import CodeOutline.Grammar

set_option autoImplicit false

namespace CodeOutline.Grammar

namespace C

def hasFunctionDeclarator (cursor : Cursor) : Bool :=
  (cursor.labelled "declarator").any (·.node.holdsKind "function_declarator")

def role (_ : Source) (cursor : Cursor) : Role :=
  if cursor.isComment then .skip
  else
    match cursor.kind with
    | "preproc_include" => .declares .importLine
    | "preproc_def" | "preproc_function_def" => .declares .define
    | "function_definition" => .declares .function
    | "declaration" => .declares (if hasFunctionDeclarator cursor then .function else .var)
    | "struct_specifier" => .declares .struct
    | "union_specifier" => .declares .type
    | "enum_specifier" => .declares .enum
    | "field_declaration" => .declares .field
    | "enumerator" => .declares .enumConstant
    | "type_definition" => .declares .typeAlias
    | "compound_statement" | "expression_statement" => .skip
    | _ => .enter

def finalKinds : List String :=
  ["identifier", "field_identifier", "type_identifier", "qualified_identifier", "destructor_name",
    "operator_name", "primitive_type"]

-- The next declarator of the chain. Parentheses and references hold it without a label.
def inner? (declarator : Cursor) : Option Cursor :=
  (declarator.field? "declarator").or declarator.firstNamed?

theorem size_of_inner? {declarator inner : Cursor} (found : inner? declarator = some inner) :
    inner.size < declarator.size := by
  unfold inner? at found
  rcases Option.or_eq_some_iff.mp found with labelled | ⟨_, first⟩
  · exact Cursor.size_of_field? labelled
  · exact Cursor.size_of_firstNamed? first

def nameInside (source : Source) (declarator : Cursor) : String :=
  if finalKinds.contains declarator.kind then source.text declarator
  else
    match _ : inner? declarator with
    | none => ""
    | some inner => nameInside source inner
termination_by declarator.size
decreasing_by exact size_of_inner? ‹_›

theorem nameInside_eq (source : Source) (declarator : Cursor) :
    nameInside source declarator =
      if finalKinds.contains declarator.kind then source.text declarator
      else ((inner? declarator).map (nameInside source)).getD "" := by
  rw [nameInside]
  split
  · rfl
  · split <;> simp_all

def declaredName (source : Source) (cursor : Cursor) : String :=
  match cursor.field? "declarator" with
  | none => ""
  | some declarator => nameInside source declarator

def asWritten (source : Source) (cursor : Cursor) (kind : Kind) : Finding :=
  let signature := source.spaced cursor
  let name :=
    match source.fieldText? cursor "name" with
    | some name => name
    | none => if declaredName source cursor = "" then signature else declaredName source cursor
  source.leaf cursor name kind { signature := some signature, body := some .bare }

-- The header of a function ends before its body and before the initializers of a constructor. A
-- definition without a body is shown as written.
def functionDefinition (source : Source) (cursor : Cursor) (kind : Kind) : Finding :=
  match cursor.field? "body" with
  | none => asWritten source cursor kind
  | some body =>
      let stop := (cursor.childOfKind? "field_initializer_list").getD body
      source.leaf cursor (declaredName source cursor) kind
        { signature := some (source.header cursor (some stop)), body := some .elided }

def record (source : Source) (cursor : Cursor) (kind : Kind) : Finding :=
  let body := cursor.field? "body"
  let bases := (cursor.childOfKind? "base_class_clause").map fun clause =>
    Text.trim (Text.trimStartWhile (· == ':') (source.spaced clause))
  ⟨source.declare cursor (source.nameAt cursor) kind
      { signature := some <|
          if body.isSome then source.header cursor body else source.spaced cursor ++ ";"
        heritage := bases
        body := some (if body.isSome then .members else .bare) },
    body⟩

def enumerator (source : Source) (cursor : Cursor) : Finding :=
  source.leaf cursor (source.nameAt cursor) .enumConstant { signature := some (source.spaced cursor ++ ",") }

def declarations (source : Source) (cursor : Cursor) (kind : Kind) : List Finding :=
  match cursor.kind with
  | "preproc_include" | "preproc_def" | "preproc_function_def" | "declaration" | "field_declaration"
  | "type_definition" => [asWritten source cursor kind]
  | "function_definition" => [functionDefinition source cursor kind]
  | "struct_specifier" | "union_specifier" | "enum_specifier" => [record source cursor kind]
  | "enumerator" => [enumerator source cursor]
  | _ => []

def findings (source : Source) (cursor : Cursor) (kind : Kind) (_ : Nat) : List Finding :=
  declarations source cursor kind

def lineKinds : List String :=
  ["preproc_include", "preproc_def", "preproc_function_def", "declaration", "field_declaration", "type_definition"]

def specifiers : List String :=
  ["struct_specifier", "union_specifier", "enum_specifier"]

def declaringKinds : List String :=
  lineKinds ++ specifiers ++ ["function_definition", "enumerator"]

inductive Form (cursor : Cursor) : Prop where
  | line (is : cursor.kind ∈ lineKinds)
  | function (is : cursor.kind = "function_definition")
  | record (is : cursor.kind ∈ specifiers)
  | enumerator (is : cursor.kind = "enumerator")
  | other (no : cursor.kind ∉ declaringKinds)

theorem form (cursor : Cursor) : Form cursor := by
  by_cases line : cursor.kind ∈ lineKinds
  · exact .line line
  by_cases function : cursor.kind = "function_definition"
  · exact .function function
  by_cases record : cursor.kind ∈ specifiers
  · exact .record record
  by_cases enumerator : cursor.kind = "enumerator"
  · exact .enumerator enumerator
  exact .other (by simp [declaringKinds, *])

variable {source : Source} {cursor : Cursor} {kind : Kind}

theorem declarations_of_line (is : cursor.kind ∈ lineKinds) :
    declarations source cursor kind = [asWritten source cursor kind] := by
  simp only [lineKinds, List.mem_cons, List.not_mem_nil, or_false] at is
  rcases is with is | is | is | is | is | is <;> simp only [declarations, is]

theorem declarations_of_record (is : cursor.kind ∈ specifiers) :
    declarations source cursor kind = [record source cursor kind] := by
  simp only [specifiers, List.mem_cons, List.not_mem_nil, or_false] at is
  rcases is with is | is | is <;> simp only [declarations, is]

theorem declarations_of_other (no : cursor.kind ∉ declaringKinds) : declarations source cursor kind = [] := by
  simp only [declaringKinds, lineKinds, specifiers, List.mem_append, List.mem_cons, List.not_mem_nil, or_false,
    not_or] at no
  simp [declarations, no]

inductive Built (source : Source) (cursor : Cursor) (kind : Kind) : Finding → Prop where
  | line (is : cursor.kind ∈ lineKinds) : Built source cursor kind (asWritten source cursor kind)
  | function (is : cursor.kind = "function_definition") :
      Built source cursor kind (functionDefinition source cursor kind)
  | record (is : cursor.kind ∈ specifiers) : Built source cursor kind (record source cursor kind)
  | enumerator (is : cursor.kind = "enumerator") : Built source cursor kind (enumerator source cursor)

theorem built_of_mem {finding : Finding} (member : finding ∈ declarations source cursor kind) :
    Built source cursor kind finding := by
  cases form cursor with
  | line is =>
      rw [declarations_of_line is] at member
      exact List.mem_singleton.mp member ▸ .line is
  | function is =>
      simp only [declarations, is] at member
      exact List.mem_singleton.mp member ▸ .function is
  | record is =>
      rw [declarations_of_record is] at member
      exact List.mem_singleton.mp member ▸ .record is
  | enumerator is =>
      simp only [declarations, is] at member
      exact List.mem_singleton.mp member ▸ .enumerator is
  | other no =>
      rw [declarations_of_other no] at member
      cases member

theorem members_of_functionDefinition (source : Source) (cursor : Cursor) (kind : Kind) :
    (functionDefinition source cursor kind).members = none := by
  unfold functionDefinition
  split <;> rfl

theorem members_of_declarations (source : Source) (cursor : Cursor) (kind : Kind) :
    MembersSmaller (declarations source cursor kind) cursor.size := by
  intro finding member members found
  cases built_of_mem member with
  | record => exact Cursor.size_of_field? found
  | function => cases (members_of_functionDefinition source cursor kind).symm.trans found
  | line | enumerator => cases found

theorem members_smaller (source : Source) (cursor : Cursor) (kind : Kind) (depth : Nat) :
    MembersSmaller (findings source cursor kind depth) cursor.size :=
  members_of_declarations source cursor kind

end C

def c : Grammar :=
  ⟨C.role, C.findings, C.members_smaller⟩

end CodeOutline.Grammar
