import CodeOutline.Language

set_option autoImplicit false

namespace CodeOutline.Language

def ofExtension? (extension : String) : Option Language :=
  let extension := Text.lowerAscii (Text.trimStartWhile (· == '.') extension)
  all.find? (·.extensions.contains extension)

def components (path : String) : List (List Char) :=
  (path.toList.splitOn '/').filter fun part => part ≠ [] ∧ part ≠ ['.']

def componentExtension? (component : List Char) : Option (List Char) :=
  let (suffix, rest) := component.reverse.span (· ≠ '.')
  match rest with
  | [] | [_] => none
  | _ => if component = ['.', '.'] then none else some suffix.reverse

def pathExtension? (path : String) : Option String :=
  ((components path).getLast?.bind componentExtension?).map String.ofList

def ofPath? (path : String) : Option Language :=
  (pathExtension? path).bind ofExtension?

end CodeOutline.Language
