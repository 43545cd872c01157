set_option autoImplicit false

namespace CodeOutline.Text

def startsWith (s lead : String) : Bool :=
  lead.toList.isPrefixOf s.toList

def occursIn (part : List Char) : List Char → Bool
  | [] => part.isEmpty
  | c :: rest => part.isPrefixOf (c :: rest) || occursIn part rest

def contains (s part : String) : Bool :=
  occursIn part.toList s.toList

-- Drops `lead` from the front as long as the text still begins with it. The first argument counts
-- characters of the current copy of `lead` that are still to be dropped.
def dropCopies (lead : List Char) : Nat → List Char → List Char
  | _, [] => []
  | skip + 1, _ :: rest => dropCopies lead skip rest
  | 0, c :: rest =>
      if !lead.isEmpty && lead.isPrefixOf (c :: rest) then dropCopies lead (lead.length - 1) rest
      else c :: rest

def trimStartCopies (lead s : String) : String :=
  String.ofList (dropCopies lead.toList 0 s.toList)

def lowerAscii (s : String) : String :=
  String.ofList (s.toList.map Char.toLower)

end CodeOutline.Text
