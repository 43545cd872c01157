import CodeOutline.Json

set_option autoImplicit false

namespace CodeOutline.Json

def hexDigit (n : Nat) : Char :=
  if n < 10 then Char.ofNat (48 + n) else Char.ofNat (87 + n)

def escape (c : Char) : List Char :=
  if c = '\x22' then ['\\', '\x22']
  else if c = '\\' then ['\\', '\\']
  else if c = '\x08' then ['\\', 'b']
  else if c = '\t' then ['\\', 't']
  else if c = '\n' then ['\\', 'n']
  else if c = '\x0c' then ['\\', 'f']
  else if c = '\r' then ['\\', 'r']
  else if c.toNat < 32 then ['\\', 'u', '0', '0', hexDigit (c.toNat / 16), hexDigit (c.toNat % 16)]
  else [c]

def quoted (text : String) : List Char :=
  '\x22' :: text.toList.flatMap escape ++ ['\x22']

def newLine (level : Nat) : List Char :=
  '\n' :: List.replicate (2 * level) ' '

mutual
def printed (level : Nat) : Json → List Char
  | .null => "null".toList
  | .bool true => "true".toList
  | .bool false => "false".toList
  | .number literal => literal.toList
  | .str value => quoted value
  | .arr [] => ['[', ']']
  | .arr (item :: rest) =>
      '[' :: newLine (level + 1) ++ printed (level + 1) item ++ printedItems (level + 1) rest ++
        newLine level ++ [']']
  | .obj [] => ['\x7b', '\x7d']
  | .obj ((key, value) :: rest) =>
      '\x7b' :: newLine (level + 1) ++ quoted key ++ [':', ' '] ++ printed (level + 1) value ++
        printedEntries (level + 1) rest ++ newLine level ++ ['\x7d']
def printedItems (level : Nat) : List Json → List Char
  | [] => []
  | item :: rest => ',' :: newLine level ++ printed level item ++ printedItems level rest
def printedEntries (level : Nat) : List (String × Json) → List Char
  | [] => []
  | (key, value) :: rest =>
      ',' :: newLine level ++ quoted key ++ [':', ' '] ++ printed level value ++ printedEntries level rest
end

def print (json : Json) : String :=
  String.ofList (printed 0 json)

end CodeOutline.Json
