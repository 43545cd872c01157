import CodeOutline.Grammar
import CodeOutline.Text.Lines

set_option autoImplicit false

namespace CodeOutline.Grammar

namespace JavaScript

def role (_ : Source) (cursor : Cursor) : Role :=
  if cursor.isComment then .skip
  else
    match cursor.kind with
    | "import_statement" => .declares .importLine
    | "export_statement" => .declares .exportLine
    | "function_declaration" | "generator_function_declaration" => .declares .function
    | "class_declaration" => .declares .classType
    | "method_definition" => .declares .method
    | "field_definition" => .declares .field
    | "lexical_declaration" | "variable_declaration" => .declares .var
    | "arrow_function" | "function_expression" | "function" | "generator_function" | "class"
    | "class_static_block" | "decorator" | "object" | "arguments" => .skip
    | _ => .enter

def exportWords : Option Cursor → String
  | none => ""
  | some statement => if statement.hasChild "default" then "export default " else "export "

def place (cursor : Cursor) (statement : Option Cursor) : Cursor :=
  statement.getD cursor

def asWritten (source : Source) (cursor : Cursor) (kind : Kind) : Finding :=
  source.leaf cursor ((source.fieldText? cursor "source").getD kind.name) kind
    { signature := some (source.spaced cursor), body := some .bare }

-- An exported value or an unknown declaration: its header up to the body, or else its first line.
def exportedValue (source : Source) (cursor value : Cursor) : Finding :=
  let signature :=
    match value.field? "body" with
    | some body => source.header cursor (some body)
    | none =>
        Text.trimEndWhile (fun c => c == '\x7b' || c == ' ') ((Text.lines (source.spaced cursor)).head?.getD "")
  source.leaf cursor ((source.fieldText? value "name").getD "default") .exportLine
    { signature := some signature, body := some .bare }

-- An arrow function may have a single parameter without parentheses.
def callablePieces (cursor : Cursor) : List Piece :=
  [.field cursor "type_parameters", .field cursor "parameters", .field cursor "parameter",
    .field cursor "return_type"]

def isGenerator (cursor : Cursor) : Bool :=
  Text.startsWith cursor.kind "generator"

def function (source : Source) (cursor : Cursor) (statement : Option Cursor) : Finding :=
  let isAsync := cursor.hasChild "async"
  let hasBody := (cursor.field? "body").isSome
  let header := source.signature <|
    [.word (exportWords statement), .word (if isAsync then "async " else ""),
      .word (if isGenerator cursor || cursor.hasChild "*" then "function* " else "function "),
      .field cursor "name"] ++ callablePieces cursor
  source.leaf (place cursor statement) (source.nameAt cursor) .function
    { signature := some (if hasBody then header else header ++ ";")
      modifiers := if isAsync then ["async"] else []
      body := some (if hasBody then .elided else .bare) }

def classDeclaration (source : Source) (cursor : Cursor) (statement : Option Cursor) : Finding :=
  let heritage := cursor.childOfKind? "class_heritage"
  let isAbstract := cursor.kind == "abstract_class_declaration"
  ⟨source.declare (place cursor statement) (source.nameAt cursor) .classType
      { signature := some <| source.signature
          [.word (exportWords statement), .word (if isAbstract then "abstract class " else "class "),
            .field cursor "name", .field cursor "type_parameters", .excerpt " " heritage ""]
        modifiers := if isAbstract then ["abstract"] else []
        heritage := heritage.map source.spaced },
    cursor.field? "body"⟩

def nameStart (cursor : Cursor) : Nat :=
  (((cursor.field? "name").or (cursor.field? "property")).map (·.start)).getD cursor.stop

def wordsBeforeName (source : Source) (cursor : Cursor) : List String :=
  let leading := cursor.children.takeWhile (·.start < nameStart cursor)
  let words := leading.filter fun child => child.kind != "decorator" && !child.isComment
  (words.map source.trimmed).filter (· ≠ "")

def spacedModifier (modifier : String) : String :=
  if modifier = "*" then modifier else modifier ++ " "

def method (source : Source) (cursor : Cursor) : Finding :=
  let modifiers := wordsBeforeName source cursor
  source.leaf cursor (source.nameAt cursor) .method
    { signature := some <| source.signature <|
        [.word (String.join (modifiers.map spacedModifier)), .field cursor "name"] ++ callablePieces cursor
      modifiers := modifiers }

def field (source : Source) (cursor : Cursor) : Finding :=
  let name := ((cursor.field? "property").or (cursor.field? "name")).map source.text
  let header := source.header cursor (cursor.field? "value")
  source.leaf cursor (name.getD "") .field
    { signature := some (Text.trimEndWhile (fun c => c == '=' || c == ';' || c == ' ') header ++ ";")
      modifiers := wordsBeforeName source cursor }

def callsRequire (source : Source) (value : Cursor) : Bool :=
  if value.kind = "call_expression" then
    match value.field? "function" with
    | none => false
    | some callee => source.text callee == "require"
  else if value.kind = "member_expression" then
    match _ : value.field? "object" with
    | none => false
    | some object => callsRequire source object
  else false
termination_by value.size
decreasing_by exact Cursor.size_of_field? ‹_›

theorem callsRequire_eq (source : Source) (value : Cursor) :
    callsRequire source value =
      if value.kind = "call_expression" then (value.field? "function").any (source.text · == "require")
      else if value.kind = "member_expression" then (value.field? "object").any (callsRequire source)
      else false := by
  rw [callsRequire]
  split
  · split <;> simp_all
  · split
    · split <;> simp_all
    · rfl

def requires (source : Source) (declarator : Cursor) : Bool :=
  (declarator.field? "value").any (callsRequire source)

def variableKeyword (source : Source) (cursor : Cursor) : String :=
  if cursor.kind = "variable_declaration" then "var"
  else ((cursor.child? 0).map source.text).getD "const"

def isFunctionValue (value : Cursor) : Bool :=
  ["arrow_function", "function_expression", "function", "generator_function"].contains value.kind

def functionValuePieces (value : Cursor) : List Piece :=
  let isAsync := Piece.word (if value.hasChild "async" then "async " else "")
  if value.kind = "arrow_function" then [isAsync] ++ callablePieces value ++ [.word " =>"]
  else [isAsync, .word (if isGenerator value then "function*" else "function")] ++ callablePieces value

def declarator? (source : Source) (cursor : Cursor) (statement : Option Cursor) (keyword : String)
    (declarator : Cursor) : Option Finding :=
  let name := source.nameAt declarator
  let head : List Piece := [.word (exportWords statement), .word keyword, .word " ", .word name]
  let other : Option Finding :=
    if statement.isSome then
      some <| source.leaf (place cursor statement) name (if keyword = "const" then .const else .var)
        { signature := some (source.signature (head ++ [.field declarator "type", .word ";"])) }
    else none
  match declarator.field? "value" with
  | none => other
  | some value =>
      if isFunctionValue value then
        some <| source.leaf (place cursor statement) name .function
          { signature := some (source.signature (head ++ .word " = " :: functionValuePieces value))
            body := some .elided }
      else if value.kind = "class" then
        some ⟨source.declare (place cursor statement) name .classType
            { signature := some <| source.signature <|
                head ++ [.word " = class", .excerpt " " (value.childOfKind? "class_heritage") ""] },
          value.field? "body"⟩
      else other

-- A declaration with a `require` is shown as written; of any other, each declarator counts.
def declaredVariables (source : Source) (cursor : Cursor) (statement : Option Cursor) : List Finding :=
  let declarators := cursor.childrenOfKind "variable_declarator"
  if declarators.any (requires source) then [asWritten source cursor .importLine]
  else declarators.filterMap (declarator? source cursor statement (variableKeyword source cursor))

def declarations (source : Source) (cursor : Cursor) (statement : Option Cursor) : List Finding :=
  match cursor.kind with
  | "import_statement" => [asWritten source cursor .importLine]
  | "export_statement" =>
      match _ : cursor.field? "declaration" with
      | some declaration =>
          let exported := declarations source declaration (some cursor)
          if exported.isEmpty then [exportedValue source cursor declaration] else exported
      | none =>
          match cursor.field? "value" with
          | some value => [exportedValue source cursor value]
          | none => [asWritten source cursor .exportLine]
  | "function_declaration" | "generator_function_declaration" => [function source cursor statement]
  | "class_declaration" => [classDeclaration source cursor statement]
  | "method_definition" => [method source cursor]
  | "field_definition" => [field source cursor]
  | "lexical_declaration" | "variable_declaration" => declaredVariables source cursor statement
  | _ => []
termination_by cursor.size
decreasing_by exact Cursor.size_of_field? ‹_›

theorem declarations_of_export {source : Source} {cursor : Cursor} {statement : Option Cursor}
    (isExport : cursor.kind = "export_statement") :
    declarations source cursor statement =
      match cursor.field? "declaration" with
      | some declaration =>
          if (declarations source declaration (some cursor)).isEmpty then [exportedValue source cursor declaration]
          else declarations source declaration (some cursor)
      | none =>
          match cursor.field? "value" with
          | some value => [exportedValue source cursor value]
          | none => [asWritten source cursor .exportLine] := by
  rw [declarations]
  simp only [isExport]
  split <;> simp_all

def findings (source : Source) (cursor : Cursor) (_ : Kind) (_ : Nat) : List Finding :=
  declarations source cursor none

theorem declarator?_cases {source : Source} {cursor declarator : Cursor} {statement : Option Cursor} {keyword : String}
    {finding : Finding} (made : declarator? source cursor statement keyword declarator = some finding) :
    (∃ kind details, finding = source.leaf (place cursor statement) (source.nameAt declarator) kind details) ∨
    ∃ value details, declarator.field? "value" = some value ∧ value.kind = "class" ∧ details.body = none ∧
      finding = ⟨source.declare (place cursor statement) (source.nameAt declarator) .classType details,
        value.field? "body"⟩ := by
  unfold declarator? at made
  dsimp only at made
  split at made
  · split at made <;> cases made
    exact .inl ⟨_, _, rfl⟩
  · rename_i value found
    split at made
    · cases made
      exact .inl ⟨_, _, rfl⟩
    · split at made
      · rename_i isClass
        cases made
        exact .inr ⟨value, _, found, isClass, rfl, rfl⟩
      · split at made <;> cases made
        exact .inl ⟨_, _, rfl⟩

theorem members_of_declarator? {source : Source} {cursor declarator members : Cursor} {statement : Option Cursor}
    {keyword : String} {finding : Finding} (made : declarator? source cursor statement keyword declarator = some finding)
    (found : finding.members = some members) : members.size < declarator.size := by
  rcases declarator?_cases made with ⟨kind, details, rfl⟩ | ⟨value, details, valueFound, _, _, rfl⟩
  · cases found
  · exact Nat.lt_trans (Cursor.size_of_field? found) (Cursor.size_of_field? valueFound)

theorem members_of_declaredVariables (source : Source) (cursor : Cursor) (statement : Option Cursor) :
    MembersSmaller (declaredVariables source cursor statement) cursor.size := by
  unfold declaredVariables
  dsimp only
  split
  · exact .leaf rfl _
  · intro finding member members found
    obtain ⟨declarator, within, made⟩ := List.mem_filterMap.mp member
    exact Nat.lt_trans (members_of_declarator? made found) (Cursor.size_of_childrenOfKind within)

def functionKinds : List String :=
  ["function_declaration", "generator_function_declaration"]

def variableKinds : List String :=
  ["lexical_declaration", "variable_declaration"]

def declaringKinds : List String :=
  functionKinds ++ variableKinds ++
    ["import_statement", "export_statement", "class_declaration", "method_definition", "field_definition"]

inductive Form (cursor : Cursor) : Prop where
  | imports (is : cursor.kind = "import_statement")
  | exports (is : cursor.kind = "export_statement")
  | function (is : cursor.kind ∈ functionKinds)
  | classDeclaration (is : cursor.kind = "class_declaration")
  | method (is : cursor.kind = "method_definition")
  | field (is : cursor.kind = "field_definition")
  | bindings (is : cursor.kind ∈ variableKinds)
  | other (no : cursor.kind ∉ declaringKinds)

theorem form (cursor : Cursor) : Form cursor := by
  by_cases imports : cursor.kind = "import_statement"
  · exact .imports imports
  by_cases exports : cursor.kind = "export_statement"
  · exact .exports exports
  by_cases function : cursor.kind ∈ functionKinds
  · exact .function function
  by_cases classDeclaration : cursor.kind = "class_declaration"
  · exact .classDeclaration classDeclaration
  by_cases method : cursor.kind = "method_definition"
  · exact .method method
  by_cases field : cursor.kind = "field_definition"
  · exact .field field
  by_cases bindings : cursor.kind ∈ variableKinds
  · exact .bindings bindings
  exact .other (by simp [declaringKinds, *])

variable {source : Source} {cursor : Cursor} {statement : Option Cursor}

theorem declarations_of_function (is : cursor.kind ∈ functionKinds) :
    declarations source cursor statement = [function source cursor statement] := by
  simp only [functionKinds, List.mem_cons, List.not_mem_nil, or_false] at is
  rcases is with is | is <;> simp only [declarations, is]

theorem declarations_of_declaredVariables (is : cursor.kind ∈ variableKinds) :
    declarations source cursor statement = declaredVariables source cursor statement := by
  simp only [variableKinds, List.mem_cons, List.not_mem_nil, or_false] at is
  rcases is with is | is <;> simp only [declarations, is]

theorem declarations_of_other (no : cursor.kind ∉ declaringKinds) : declarations source cursor statement = [] := by
  simp only [declaringKinds, functionKinds, variableKinds, List.mem_append, List.mem_cons, List.not_mem_nil, or_false,
    not_or] at no
  rw [declarations]
  simp [no]

-- An export statement declares what stands in it, or is shown for a value in it, or as written.
theorem declarations_of_export_cases (is : cursor.kind = "export_statement") :
    (∃ declaration, cursor.field? "declaration" = some declaration ∧
      declarations source cursor statement = declarations source declaration (some cursor)) ∨
    (∃ label value, cursor.field? label = some value ∧
      declarations source cursor statement = [exportedValue source cursor value]) ∨
    declarations source cursor statement = [asWritten source cursor .exportLine] := by
  rw [declarations_of_export is]
  cases inner : cursor.field? "declaration" with
  | some declaration =>
      dsimp only
      by_cases empty : (declarations source declaration (some cursor)).isEmpty
      · exact .inr (.inl ⟨_, declaration, inner, if_pos empty⟩)
      · exact .inl ⟨declaration, rfl, if_neg empty⟩
  | none =>
      cases outer : cursor.field? "value" with
      | some value => exact .inr (.inl ⟨_, value, outer, rfl⟩)
      | none => exact .inr (.inr rfl)

inductive Built (source : Source) : Cursor → Option Cursor → Finding → Prop where
  | imports {cursor : Cursor} {statement : Option Cursor} (is : cursor.kind = "import_statement") :
      Built source cursor statement (asWritten source cursor .importLine)
  | exported {cursor declaration : Cursor} {statement : Option Cursor} {finding : Finding}
      (is : cursor.kind = "export_statement") (found : cursor.field? "declaration" = some declaration)
      (built : Built source declaration (some cursor) finding) : Built source cursor statement finding
  | exportedValue {cursor value : Cursor} {statement : Option Cursor} {label : String}
      (is : cursor.kind = "export_statement") (found : cursor.field? label = some value) :
      Built source cursor statement (exportedValue source cursor value)
  | exportLine {cursor : Cursor} {statement : Option Cursor} (is : cursor.kind = "export_statement") :
      Built source cursor statement (asWritten source cursor .exportLine)
  | function {cursor : Cursor} {statement : Option Cursor} (is : cursor.kind ∈ functionKinds) :
      Built source cursor statement (function source cursor statement)
  | classDeclaration {cursor : Cursor} {statement : Option Cursor} (is : cursor.kind = "class_declaration") :
      Built source cursor statement (classDeclaration source cursor statement)
  | method {cursor : Cursor} {statement : Option Cursor} (is : cursor.kind = "method_definition") :
      Built source cursor statement (method source cursor)
  | field {cursor : Cursor} {statement : Option Cursor} (is : cursor.kind = "field_definition") :
      Built source cursor statement (field source cursor)
  | held {cursor : Cursor} {statement : Option Cursor} {finding : Finding} (is : cursor.kind ∈ variableKinds)
      (member : finding ∈ declaredVariables source cursor statement) : Built source cursor statement finding

theorem built_of_mem {source : Source} {cursor : Cursor} {statement : Option Cursor} {finding : Finding}
    (member : finding ∈ declarations source cursor statement) : Built source cursor statement finding := by
  cases form cursor with
  | imports is =>
      simp only [declarations, is] at member
      exact List.mem_singleton.mp member ▸ .imports is
  | exports is =>
      rcases declarations_of_export_cases is with ⟨declaration, found, made⟩ | ⟨label, value, found, made⟩ | made
      · rw [made] at member
        exact .exported is found (built_of_mem member)
      · rw [made] at member
        exact List.mem_singleton.mp member ▸ .exportedValue is found
      · rw [made] at member
        exact List.mem_singleton.mp member ▸ .exportLine is
  | function is =>
      rw [declarations_of_function is] at member
      exact List.mem_singleton.mp member ▸ .function is
  | classDeclaration is =>
      simp only [declarations, is] at member
      exact List.mem_singleton.mp member ▸ .classDeclaration is
  | method is =>
      simp only [declarations, is] at member
      exact List.mem_singleton.mp member ▸ .method is
  | field is =>
      simp only [declarations, is] at member
      exact List.mem_singleton.mp member ▸ .field is
  | bindings is =>
      rw [declarations_of_declaredVariables is] at member
      exact .held is member
  | other no =>
      rw [declarations_of_other no] at member
      cases member
termination_by cursor.size
decreasing_by exact Cursor.size_of_field? found

theorem Built.size_of_members {source : Source} {cursor members : Cursor} {statement : Option Cursor}
    {finding : Finding} (built : Built source cursor statement finding) (inside : finding.members = some members) :
    members.size < cursor.size := by
  induction built with
  | exported _ found _ smaller => exact Nat.lt_trans (smaller inside) (Cursor.size_of_field? found)
  | classDeclaration => exact Cursor.size_of_field? inside
  | held _ among => exact members_of_declaredVariables source _ _ _ among members inside
  | imports | exportedValue | exportLine | function | method | field => cases inside

theorem members_of_declarations (source : Source) (cursor : Cursor) (statement : Option Cursor) :
    MembersSmaller (declarations source cursor statement) cursor.size :=
  fun _ member _ inside => (built_of_mem member).size_of_members inside

theorem members_smaller (source : Source) (cursor : Cursor) (kind : Kind) (depth : Nat) :
    MembersSmaller (findings source cursor kind depth) cursor.size :=
  members_of_declarations source cursor none

end JavaScript

def javaScript : Grammar :=
  ⟨JavaScript.role, JavaScript.findings, JavaScript.members_smaller⟩

end CodeOutline.Grammar
