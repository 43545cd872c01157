import CodeOutline.Source

set_option autoImplicit false

namespace CodeOutline

inductive Piece where
  | word (text : String)
  | excerpt (lead : String) (node : Option Cursor) (trail : String)
  | modifiers (list : List String)

namespace Piece

def field (cursor : Cursor) (label : String) : Piece :=
  .excerpt "" (cursor.field? label) ""

def fieldAfter (lead : String) (cursor : Cursor) (label : String) : Piece :=
  .excerpt lead (cursor.field? label) ""

def text (source : Source) : Piece → String
  | .word text => text
  | .excerpt _ none _ => ""
  | .excerpt lead (some node) trail =>
      let inner := source.trimmed node
      if inner = "" then "" else lead ++ inner ++ trail
  | .modifiers [] => ""
  | .modifiers list => String.intercalate " " list ++ " "

end Piece

def Source.signature (source : Source) (pieces : List Piece) : String :=
  source.spacing.apply (String.join (pieces.map (·.text source)))

end CodeOutline
