import CodeOutline.Tree.Cursor

set_option autoImplicit false

namespace CodeOutline

namespace Listing

structure Row where
  shape : Shape
  arity : Nat
  redirects : List (String × Option Nat)
deriving Repr

mutual
-- The path to the node that stands `distance` places after the first of `nodes`, which is child
-- number `position` of its parent.
def pathAmong (distance position : Nat) : List Node → Option (List Nat)
  | [] => none
  | node :: rest =>
      if distance < node.size then (pathInside distance node).map (position :: ·)
      else pathAmong (distance - node.size) (position + 1) rest
def pathInside (distance : Nat) : Node → Option (List Nat)
  | ⟨_, children⟩ => if distance = 0 then some [] else pathAmong (distance - 1) 0 children
end

def resolve (place : Nat) (children : List Node) :
    String × Option Nat → Option (String × List Nat)
  | (label, none) => some (label, [])
  | (label, some target) =>
      if target ≤ place then none else (pathAmong (target - place - 1) 0 children).map (label, ·)

-- Builds the node of a row at `place` from the trees that follow it, and leaves those that are not
-- its own.
def attach (row : Row) (place : Nat) (later : List Node) : Option (List Node) :=
  if row.arity ≤ later.length then
    let children := later.take row.arity
    (row.redirects.mapM (resolve place children)).map fun redirects =>
      ⟨{ row.shape with redirects }, children⟩ :: later.drop row.arity
  else none

def trees (place : Nat) : List Row → Option (List Node)
  | [] => some []
  | row :: rest => (trees (place + 1) rest).bind (attach row place)

def tree? (rows : List Row) : Option Node :=
  match trees 0 rows with
  | some [node] => some node
  | _ => none

mutual
def below (context : Context) : Node → List Cursor
  | ⟨shape, children⟩ => ⟨⟨shape, children⟩, context⟩ :: allBelow ⟨shape, children⟩ context [] children
def allBelow (parent : Node) (above : Context) (before : List Node) : List Node → List Cursor
  | [] => []
  | node :: rest =>
      below (.under parent above before) node ++ allBelow parent above (node :: before) rest
end

def cursors (node : Node) : List Cursor :=
  below .top node

end Listing

end CodeOutline
