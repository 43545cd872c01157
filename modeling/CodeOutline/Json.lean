import CodeOutline.Text.Decimal

set_option autoImplicit false

namespace CodeOutline

inductive Json where
  | null
  | bool (value : Bool)
  | number (literal : String)
  | str (value : String)
  | arr (items : List Json)
  | obj (entries : List (String × Json))
deriving Repr, Inhabited

namespace Json

def ofNat (n : Nat) : Json :=
  .number (Text.numeral n)

def nat? : Json → Option Nat
  | .number literal =>
      if literal ≠ "" ∧ literal.toList.all Char.isDigit then some (Text.valueOf literal.toList) else none
  | _ => none

def bool? : Json → Option Bool
  | .bool value => some value
  | _ => none

def str? : Json → Option String
  | .str value => some value
  | _ => none

def get? (key : String) : Json → Option Json
  | .obj entries => entries.lookup key
  | _ => none

end Json

end CodeOutline
