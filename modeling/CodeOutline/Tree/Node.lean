set_option autoImplicit false

namespace CodeOutline

structure Shape where
  kind : String
  label : Option String
  named : Bool
  extra : Bool
  isError : Bool
  -- The node or something below it is such a node, or a token that was inserted.
  hasError : Bool
  start : Nat
  stop : Nat
  -- Labels that are looked up elsewhere than at the first child bearing them: each leads along a
  -- path of child positions, and the empty path leads nowhere.
  redirects : List (String × List Nat)
deriving DecidableEq, Repr, Inhabited

structure Node extends Shape where
  children : List Node
deriving Repr, Inhabited

namespace Node

mutual
def size : Node → Nat
  | ⟨_, children⟩ => 1 + sizeAll children
def sizeAll : List Node → Nat
  | [] => 0
  | node :: rest => node.size + sizeAll rest
end

theorem size_eq (node : Node) : node.size = 1 + sizeAll node.children := by
  cases node
  rw [size]

theorem size_le_sizeAll {node : Node} {nodes : List Node} (member : node ∈ nodes) :
    node.size ≤ sizeAll nodes := by
  induction nodes with
  | nil => cases member
  | cons head rest ih =>
      rw [sizeAll]
      cases member with
      | head => omega
      | tail _ later =>
          have := ih later
          omega

theorem size_lt_of_mem_children {node parent : Node} (member : node ∈ parent.children) :
    node.size < parent.size := by
  have := size_le_sizeAll member
  rw [size_eq parent]
  omega

mutual
def holdsKind (kind : String) : Node → Bool
  | ⟨shape, children⟩ => shape.kind == kind || anyHoldsKind kind children
def anyHoldsKind (kind : String) : List Node → Bool
  | [] => false
  | node :: rest => node.holdsKind kind || anyHoldsKind kind rest
end

end Node

end CodeOutline
