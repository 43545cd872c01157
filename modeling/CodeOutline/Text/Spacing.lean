import CodeOutline.Text.Blank

set_option autoImplicit false

namespace CodeOutline

inductive Spacing where
  | verbatim
  | folded
deriving DecidableEq, Repr, Inhabited

namespace Spacing

def isFoldable (c : Char) : Bool :=
  c == ' ' || c == '\t' || c == '\r' || c == '\n'

-- Writes one space per run; `inside` says that the run at hand already has its space.
def foldRuns (inside : Bool) : List Char → List Char
  | [] => []
  | c :: rest =>
      if isFoldable c then
        if inside then foldRuns true rest else ' ' :: foldRuns true rest
      else c :: foldRuns false rest

def apply : Spacing → String → String
  | .verbatim, text => Text.trim text
  | .folded, text => String.ofList (foldRuns false (Text.trim text).toList)

end Spacing

end CodeOutline
