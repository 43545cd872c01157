import CodeOutline.Symbol.Kind

set_option autoImplicit false

namespace CodeOutline

-- A declaration without its members. Lines are counted from one, columns in bytes from zero.
structure Declaration where
  name : String
  kind : Kind
  signature : String
  documentation : Option String
  startLine : UInt32
  startColumn : UInt32
  endLine : UInt32
  modifiers : List String
  decorators : List String
  heritage : Option String
  body : Body
deriving DecidableEq, Repr, Inhabited

structure Symbol extends Declaration where
  children : List Symbol
deriving Repr, Inhabited

namespace Symbol

mutual
def count : Symbol → Nat
  | ⟨_, children⟩ => 1 + countAll children
def countAll : List Symbol → Nat
  | [] => 0
  | symbol :: rest => symbol.count + countAll rest
end

end Symbol

end CodeOutline
