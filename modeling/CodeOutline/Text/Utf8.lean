set_option autoImplicit false

namespace CodeOutline.Utf8

def replacement : Char := '\uFFFD'

-- A character that has begun: how many bytes follow the next one, the bits read so far, and the
-- range in which the next byte has to lie.
structure Unfinished where
  after : Nat
  bits : Nat
  low : UInt8
  high : UInt8
deriving DecidableEq, Repr

-- What a byte means where a character may begin. The narrowed ranges shut out overlong forms,
-- surrogates and values above U+10FFFF.
inductive Lead where
  | whole (c : Char)
  | opens (p : Unfinished)
  | invalid
deriving DecidableEq, Repr

def lead (b : UInt8) : Lead :=
  if b < 0x80 then .whole (Char.ofNat b.toNat)
  else if b < 0xC2 then .invalid
  else if b < 0xE0 then .opens ⟨0, b.toNat - 0xC0, 0x80, 0xBF⟩
  else if b = 0xE0 then .opens ⟨1, 0, 0xA0, 0xBF⟩
  else if b = 0xED then .opens ⟨1, 13, 0x80, 0x9F⟩
  else if b < 0xF0 then .opens ⟨1, b.toNat - 0xE0, 0x80, 0xBF⟩
  else if b = 0xF0 then .opens ⟨2, 0, 0x90, 0xBF⟩
  else if b < 0xF4 then .opens ⟨2, b.toNat - 0xF0, 0x80, 0xBF⟩
  else if b = 0xF4 then .opens ⟨2, 4, 0x80, 0x8F⟩
  else .invalid

def begin (b : UInt8) : List Char × Option Unfinished :=
  match lead b with
  | .whole c => ([c], none)
  | .opens p => ([], some p)
  | .invalid => ([replacement], none)

def step (pending : Option Unfinished) (b : UInt8) : List Char × Option Unfinished :=
  match pending with
  | none => begin b
  | some p =>
      if p.low ≤ b ∧ b ≤ p.high then
        let bits := p.bits * 64 + (b.toNat - 0x80)
        match p.after with
        | 0 => ([Char.ofNat bits], none)
        | after + 1 => ([], some ⟨after, bits, 0x80, 0xBF⟩)
      else
        let (chars, next) := begin b
        (replacement :: chars, next)

def decodeFrom (pending : Option Unfinished) : List UInt8 → List Char
  | [] => if pending.isSome then [replacement] else []
  | b :: rest =>
      let (chars, next) := step pending b
      chars ++ decodeFrom next rest

def decode (bytes : ByteArray) : String :=
  String.ofList (decodeFrom none bytes.data.toList)

end CodeOutline.Utf8
