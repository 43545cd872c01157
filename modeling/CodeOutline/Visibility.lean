import CodeOutline.Symbol.Kind
import CodeOutline.Text.Search

set_option autoImplicit false

namespace CodeOutline

inductive Visibility where
  | everything
  | hideUnderscore
deriving DecidableEq, Repr, Inhabited

namespace Visibility

def shows : Visibility → Kind → String → Bool
  | .everything, _, _ => true
  | .hideUnderscore, kind, name =>
      !((kind == .function || kind == .method || kind == .classType) && Text.startsWith name "_")

end Visibility

end CodeOutline
