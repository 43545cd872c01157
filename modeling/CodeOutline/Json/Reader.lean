import CodeOutline.Json

set_option autoImplicit false

namespace CodeOutline.Json

def isSpace (c : Char) : Bool :=
  c == ' ' || c == '\t' || c == '\n' || c == '\r'

def skipSpace (cs : List Char) : List Char :=
  cs.dropWhile isSpace

def hexValue? (c : Char) : Option Nat :=
  if '0' ≤ c ∧ c ≤ '9' then some (c.toNat - 48)
  else if 'a' ≤ c ∧ c ≤ 'f' then some (c.toNat - 87)
  else if 'A' ≤ c ∧ c ≤ 'F' then some (c.toNat - 55)
  else none

def hexUnit? (a b c d : Char) : Option Nat := do
  return (((← hexValue? a) * 16 + (← hexValue? b)) * 16 + (← hexValue? c)) * 16 + (← hexValue? d)

def unescape? (c : Char) : Option Char :=
  if c = '\x22' ∨ c = '\\' ∨ c = '/' then some c
  else if c = 'b' then some '\x08'
  else if c = 'f' then some '\x0c'
  else if c = 'n' then some '\n'
  else if c = 'r' then some '\r'
  else if c = 't' then some '\t'
  else none

def isHighSurrogate (unit : Nat) : Bool :=
  0xD800 ≤ unit && unit < 0xDC00

def isLowSurrogate (unit : Nat) : Bool :=
  0xDC00 ≤ unit && unit < 0xE000

def paired (high low : Nat) : Char :=
  Char.ofNat (0x10000 + (high - 0xD800) * 0x400 + (low - 0xDC00))

-- The rest of a string after its first quotation mark; `read` holds what came before, last character
-- first.
def stringTail (read : List Char) : List Char → Option (String × List Char)
  | [] => none
  | '\\' :: 'u' :: a :: b :: c :: d :: rest =>
      match hexUnit? a b c d with
      | none => none
      | some unit =>
          if isLowSurrogate unit then none
          else if isHighSurrogate unit then
            match rest with
            | '\\' :: 'u' :: e :: f :: g :: h :: rest =>
                match hexUnit? e f g h with
                | none => none
                | some low => if isLowSurrogate low then stringTail (paired unit low :: read) rest else none
            | _ => none
          else stringTail (Char.ofNat unit :: read) rest
  | '\\' :: c :: rest =>
      match unescape? c with
      | none => none
      | some c => stringTail (c :: read) rest
  | c :: rest =>
      if c = '\x22' then some (String.ofList read.reverse, rest)
      else if c.toNat < 32 ∨ c = '\\' then none
      else stringTail (c :: read) rest

def digitRun (cs : List Char) : List Char × List Char :=
  cs.span Char.isDigit

def someDigits? (cs : List Char) : Option (List Char × List Char) :=
  match digitRun cs with
  | ([], _) => none
  | run => some run

-- Digits that begin with a zero only if there is no other.
def integerPart? (cs : List Char) : Option (List Char × List Char) :=
  match cs with
  | '0' :: rest => some (['0'], rest)
  | cs => someDigits? cs

def fraction? (cs : List Char) : Option (List Char × List Char) :=
  match cs with
  | '.' :: rest => (someDigits? rest).map fun (digits, rest) => ('.' :: digits, rest)
  | cs => some ([], cs)

def exponent? (cs : List Char) : Option (List Char × List Char) :=
  match cs with
  | c :: rest =>
      if c = 'e' ∨ c = 'E' then
        let (sign, rest) := rest.span fun c => c == '+' || c == '-'
        if 1 < sign.length then none
        else (someDigits? rest).map fun (digits, rest) => (c :: sign ++ digits, rest)
      else some ([], c :: rest)
  | [] => some ([], [])

def numeral? (cs : List Char) : Option (String × List Char) := do
  let (sign, rest) := match cs with
    | '-' :: rest => (['-'], rest)
    | cs => ([], cs)
  let (whole, rest) ← integerPart? rest
  let (fraction, rest) ← fraction? rest
  let (exponent, rest) ← exponent? rest
  return (String.ofList (sign ++ whole ++ fraction ++ exponent), rest)

def afterWord? (word : String) (cs : List Char) : Option (List Char) :=
  if word.toList.isPrefixOf cs then some (cs.drop word.length) else none

mutual
def value? : Nat → List Char → Option (Json × List Char)
  | 0, _ => none
  | fuel + 1, cs =>
      match skipSpace cs with
      | [] => none
      | '[' :: rest =>
          match skipSpace rest with
          | ']' :: rest => some (.arr [], rest)
          | rest => (items? fuel rest).map fun (items, rest) => (.arr items, rest)
      | '\x7b' :: rest =>
          match skipSpace rest with
          | '\x7d' :: rest => some (.obj [], rest)
          | rest => (entries? fuel rest).map fun (entries, rest) => (.obj entries, rest)
      | '\x22' :: rest => (stringTail [] rest).map fun (text, rest) => (.str text, rest)
      | 'n' :: rest => (afterWord? "ull" rest).map fun rest => (.null, rest)
      | 't' :: rest => (afterWord? "rue" rest).map fun rest => (.bool true, rest)
      | 'f' :: rest => (afterWord? "alse" rest).map fun rest => (.bool false, rest)
      | cs => (numeral? cs).map fun (literal, rest) => (.number literal, rest)
def items? : Nat → List Char → Option (List Json × List Char)
  | 0, _ => none
  | fuel + 1, cs =>
      match value? fuel cs with
      | none => none
      | some (item, rest) =>
          match skipSpace rest with
          | ']' :: rest => some ([item], rest)
          | ',' :: rest => (items? fuel rest).map fun (items, rest) => (item :: items, rest)
          | _ => none
def entries? : Nat → List Char → Option (List (String × Json) × List Char)
  | 0, _ => none
  | fuel + 1, cs =>
      match skipSpace cs with
      | '\x22' :: rest =>
          match stringTail [] rest with
          | none => none
          | some (key, rest) =>
              match skipSpace rest with
              | ':' :: rest =>
                  match value? fuel rest with
                  | none => none
                  | some (value, rest) =>
                      match skipSpace rest with
                      | '\x7d' :: rest => some ([(key, value)], rest)
                      | ',' :: rest =>
                          (entries? fuel rest).map fun (entries, rest) => ((key, value) :: entries, rest)
                      | _ => none
              | _ => none
      | _ => none
end

def parse? (text : String) : Option Json :=
  match value? (2 * text.length + 1) text.toList with
  | none => none
  | some (json, rest) => if skipSpace rest = [] then some json else none

end CodeOutline.Json
