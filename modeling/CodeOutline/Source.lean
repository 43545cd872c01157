import CodeOutline.Text.Spacing
import CodeOutline.Text.Utf8
import CodeOutline.Tree.Cursor

set_option autoImplicit false

namespace CodeOutline

structure Source where
  content : ByteArray
  breaks : List Nat
  spacing : Spacing

namespace Source

def breaksFrom (offset : Nat) : List UInt8 → List Nat
  | [] => []
  | b :: rest => if b = 0x0A then offset :: breaksFrom (offset + 1) rest else breaksFrom (offset + 1) rest

-- The source of a tree over `parsed` whose excerpts are cut from `content`.
def ofBytes (spacing : Spacing) (parsed content : ByteArray) : Source :=
  ⟨content, breaksFrom 0 parsed.data.toList, spacing⟩

def row (source : Source) (offset : Nat) : Nat :=
  source.breaks.countP (· < offset)

def lineStart (source : Source) (offset : Nat) : Nat :=
  source.breaks.foldl (fun start place => if place < offset then place + 1 else start) 0

-- Columns are counted in bytes, from zero.
def column (source : Source) (offset : Nat) : Nat :=
  offset - source.lineStart offset

-- Empty when the range is reversed or leaves the content.
def slice (source : Source) (start stop : Nat) : String :=
  if start ≤ stop ∧ stop ≤ source.content.size then Utf8.decode (source.content.extract start stop) else ""

def nodeText (source : Source) (node : Node) : String :=
  source.slice node.start node.stop

def text (source : Source) (cursor : Cursor) : String :=
  source.nodeText cursor.node

def trimmed (source : Source) (cursor : Cursor) : String :=
  Text.trim (source.text cursor)

def spaced (source : Source) (cursor : Cursor) : String :=
  source.spacing.apply (source.text cursor)

-- A `stop` that begins before the node cuts nothing off.
def headerStop (cursor : Cursor) : Option Cursor → Nat
  | none => cursor.stop
  | some stop => if cursor.start ≤ stop.start then stop.start else cursor.stop

def header (source : Source) (cursor : Cursor) (stop : Option Cursor) : String :=
  source.spacing.apply (source.slice cursor.start (headerStop cursor stop))

def fieldText? (source : Source) (cursor : Cursor) (label : String) : Option String :=
  (cursor.field? label).map source.text

def nameAt (source : Source) (cursor : Cursor) : String :=
  (source.fieldText? cursor "name").getD ""

def modifierWords (source : Source) (list : Option Cursor) : List String :=
  match list with
  | none => []
  | some list => (list.children.map source.trimmed).filter (· ≠ "")

end Source

end CodeOutline
