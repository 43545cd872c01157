import CodeOutline.Documentation
import CodeOutline.Signature
import CodeOutline.Symbol

set_option autoImplicit false

namespace CodeOutline

structure Details where
  signature : Option String := none
  documentation : Option String := none
  modifiers : List String := []
  decorators : List String := []
  heritage : Option String := none
  body : Option Body := none
deriving DecidableEq, Repr, Inhabited

structure Finding where
  declaration : Declaration
  members : Option Cursor := none
deriving Inhabited

def Source.line (source : Source) (offset : Nat) : UInt32 :=
  (source.row offset + 1).toUInt32

/-- Without a signature the name is shown, without documentation the comments above the node are taken. -/
def Source.declare (source : Source) (place : Cursor) (name : String) (kind : Kind) (details : Details) :
    Declaration where
  name := name
  kind := kind
  signature := (details.signature.filter (· ≠ "")).getD name
  documentation := details.documentation.or (source.documentation? place)
  startLine := source.line place.start
  startColumn := (source.column place.start).toUInt32
  endLine := source.line place.stop
  modifiers := details.modifiers
  decorators := details.decorators
  heritage := details.heritage.filter (· ≠ "")
  body := details.body.getD kind.defaultBody

def Source.leaf (source : Source) (place : Cursor) (name : String) (kind : Kind) (details : Details) : Finding :=
  ⟨source.declare place name kind details, none⟩

end CodeOutline
