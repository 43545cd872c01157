import CodeOutline.Symbol
import CodeOutline.Text.Blank
import CodeOutline.Text.Decimal
import CodeOutline.Text.Lines
import CodeOutline.Text.Search

set_option autoImplicit false

namespace CodeOutline.Layout

inductive Blocks where
  | braces
  | colon
deriving DecidableEq, Repr, Inhabited

inductive Elision where
  | stub (text : String)
  | block (placeholder : String)
  | suite (placeholder : String)
deriving DecidableEq, Repr, Inhabited

structure Style where
  unit : String
  marker : String
  -- A line of documentation that begins with one of these is a comment already.
  leaders : List String
  blocks : Blocks
  elision : Elision
deriving DecidableEq, Repr, Inhabited

structure Options where
  lineNumbers : Bool := true
  documentation : Bool := true
deriving DecidableEq, Repr, Inhabited

inductive Part where
  | documentation
  | decorator
  | header
  | filler
  | closing
  | gap
deriving DecidableEq, Repr, Inhabited

structure Line where
  part : Part
  depth : Nat
  text : String
deriving DecidableEq, Repr, Inhabited

def gap : Line :=
  ⟨.gap, 0, ""⟩

def indentation (unit : String) (depth : Nat) : String :=
  String.join (List.replicate depth unit)

def Line.print (style : Style) (line : Line) : String :=
  indentation style.unit line.depth ++ line.text ++ "\n"

def commentLine (style : Style) (line : String) : String :=
  let text := Text.trim line
  if text = "" then style.marker
  else if style.leaders.any (Text.startsWith text) then text
  else style.marker ++ " " ++ text

def documentationLines (style : Style) (options : Options) (depth : Nat) (documentation : Option String) :
    List Line :=
  if options.documentation then
    (Text.lines (documentation.getD "")).map fun line => ⟨.documentation, depth, commentLine style line⟩
  else []

def lineRemark (style : Style) (options : Options) (line : UInt32) : String :=
  if options.lineNumbers then " " ++ style.marker ++ " line " ++ Text.numeral line.toNat else ""

def headerLine (style : Style) (options : Options) (depth : Nat) (declaration : Declaration) (opening : String) :
    Line :=
  ⟨.header, depth, declaration.signature ++ opening ++ lineRemark style options declaration.startLine⟩

def leadingLines (style : Style) (options : Options) (depth : Nat) (declaration : Declaration) : List Line :=
  documentationLines style options depth declaration.documentation ++
    declaration.decorators.map fun decorator => ⟨.decorator, depth, decorator⟩

def elidedLines (style : Style) (options : Options) (depth : Nat) (declaration : Declaration) : List Line :=
  let header := headerLine style options depth declaration
  match style.elision with
  | .stub text => [header (" " ++ text), gap]
  | .block placeholder =>
      [header " \x7b", ⟨.filler, depth + 1, placeholder⟩, ⟨.closing, depth, "\x7d"⟩, gap]
  | .suite placeholder => [header ":", ⟨.filler, depth + 1, placeholder⟩, gap]

-- A block around the lines of the members. A suite without members holds a placeholder.
def blockLines (style : Style) (options : Options) (depth : Nat) (declaration : Declaration)
    (members : List Line) : List Line :=
  let header := headerLine style options depth declaration
  match style.blocks with
  | .braces => header " \x7b" :: members ++ [⟨.closing, depth, "\x7d"⟩, gap]
  | .colon =>
      header ":" :: (if members.isEmpty then [⟨.filler, depth + 1, "pass"⟩] else members) ++ [gap]

mutual
def lines (style : Style) (options : Options) (depth : Nat) : Symbol → List Line
  | ⟨declaration, children⟩ =>
      leadingLines style options depth declaration ++
        match declaration.body with
        | .bare => [headerLine style options depth declaration ""]
        | .elided => elidedLines style options depth declaration
        | .members =>
            blockLines style options depth declaration (allLines style options (depth + 1) children)
def allLines (style : Style) (options : Options) (depth : Nat) : List Symbol → List Line
  | [] => []
  | symbol :: rest => lines style options depth symbol ++ allLines style options depth rest
end

def render (style : Style) (options : Options) (symbols : List Symbol) : String :=
  String.join ((allLines style options 0 symbols).map (·.print style))

end CodeOutline.Layout
