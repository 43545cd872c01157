import CodeOutline.Grammar

set_option autoImplicit false

namespace CodeOutline.Grammar

namespace Python

def role (_ : Source) (cursor : Cursor) : Role :=
  if cursor.isComment then .skip
  else
    match cursor.kind with
    | "import_statement" | "import_from_statement" | "future_import_statement" => .declares .importLine
    | "function_definition" => .declares .function
    | "class_definition" => .declares .classType
    | "expression_statement" | "decorator" | "pass_statement" | "return_statement" => .skip
    | _ => .enter

def decorated? (cursor : Cursor) : Option Cursor :=
  cursor.parent?.filter (·.kind == "decorated_definition")

def decorators (source : Source) (cursor : Cursor) : List String :=
  match decorated? cursor with
  | none => []
  | some whole => (whole.childrenOfKind "decorator").map source.trimmed

def isStringMark (c : Char) : Bool :=
  "rRuUbBfF".toList.contains c

def isQuote (c : Char) : Bool :=
  c == '\x22' || c == '\x27'

-- A string literal without its marks and without any quotes at its ends.
def unquoted (literal : String) : String :=
  Text.trim (Text.trimWhile isQuote (Text.trimStartWhile isStringMark literal))

def docstringNode? (cursor : Cursor) : Option Cursor :=
  (cursor.field? "body").bind fun body =>
    (body.firstNamed?.filter (·.kind == "expression_statement")).bind fun statement =>
      statement.firstNamed?.filter (·.kind == "string")

def docstring? (source : Source) (cursor : Cursor) : Option String :=
  ((docstringNode? cursor).map fun literal => unquoted (source.text literal)).filter (· ≠ "")

def documentation? (source : Source) (cursor : Cursor) : Option String :=
  (docstring? source cursor).or (source.documentation? ((decorated? cursor).getD cursor))

def importStatement (source : Source) (cursor : Cursor) : Finding :=
  source.leaf cursor "import" .importLine { signature := some (source.spaced cursor) }

def function (source : Source) (cursor : Cursor) (depth : Nat) : Finding :=
  let isAsync := cursor.hasChild "async"
  let decorators := decorators source cursor
  source.leaf cursor (source.nameAt cursor) (if 0 < depth then .method else .function)
    { signature := some <| source.signature
        [.word (if isAsync then "async def " else "def "), .field cursor "name", .field cursor "type_parameters",
          .field cursor "parameters", .fieldAfter " -> " cursor "return_type"]
      documentation := documentation? source cursor
      modifiers := decorators ++ (if isAsync then ["async"] else [])
      decorators := decorators }

def classDefinition (source : Source) (cursor : Cursor) : Finding :=
  let decorators := decorators source cursor
  ⟨source.declare cursor (source.nameAt cursor) .classType
      { signature := some <| source.signature
          [.word "class ", .field cursor "name", .field cursor "type_parameters", .field cursor "superclasses"]
        documentation := documentation? source cursor
        modifiers := decorators
        decorators := decorators
        heritage := source.fieldText? cursor "superclasses" },
    cursor.field? "body"⟩

def findings (source : Source) (cursor : Cursor) (kind : Kind) (depth : Nat) : List Finding :=
  match kind with
  | .importLine => [importStatement source cursor]
  | .function => [function source cursor depth]
  | .classType => [classDefinition source cursor]
  | _ => []

theorem members_smaller (source : Source) (cursor : Cursor) (kind : Kind) (depth : Nat) :
    MembersSmaller (findings source cursor kind depth) cursor.size := by
  unfold findings
  split
  · exact .leaf rfl _
  · exact .leaf rfl _
  · exact .field _ cursor "body"
  · exact .nil _

end Python

def python : Grammar :=
  ⟨Python.role, Python.findings, Python.members_smaller⟩

end CodeOutline.Grammar
