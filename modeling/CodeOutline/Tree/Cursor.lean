import CodeOutline.Tree.Node

set_option autoImplicit false

namespace CodeOutline

-- The surroundings of a node: the root of a tree, or a place among the children of `parent`, with
-- the siblings `before` it listed nearest first.
inductive Context where
  | top
  | under (parent : Node) (above : Context) (before : List Node)
deriving Inhabited

structure Cursor where
  node : Node
  context : Context
deriving Inhabited

namespace Cursor

def root (node : Node) : Cursor :=
  ⟨node, .top⟩

def kind (cursor : Cursor) : String :=
  cursor.node.kind

def start (cursor : Cursor) : Nat :=
  cursor.node.start

def stop (cursor : Cursor) : Nat :=
  cursor.node.stop

def size (cursor : Cursor) : Nat :=
  cursor.node.size

def parent? (cursor : Cursor) : Option Cursor :=
  match cursor.context with
  | .top => none
  | .under parent above _ => some ⟨parent, above⟩

def before (cursor : Cursor) : List Node :=
  match cursor.context with
  | .top => []
  | .under _ _ before => before

def placeAll (parent : Cursor) : List Node → List Node → List Cursor
  | _, [] => []
  | before, node :: rest =>
      ⟨node, .under parent.node parent.context before⟩ :: placeAll parent (node :: before) rest

def children (cursor : Cursor) : List Cursor :=
  placeAll cursor [] cursor.node.children

def namedChildren (cursor : Cursor) : List Cursor :=
  cursor.children.filter (·.node.named)

def firstNamed? (cursor : Cursor) : Option Cursor :=
  cursor.children.find? (·.node.named)

def child? (cursor : Cursor) (position : Nat) : Option Cursor :=
  cursor.children[position]?

def follow (cursor : Cursor) : List Nat → Option Cursor
  | [] => some cursor
  | position :: rest =>
      match cursor.child? position with
      | none => none
      | some child => child.follow rest

/-- The child that a label stands for: the first one bearing it, unless the node redirects it. -/
def field? (cursor : Cursor) (label : String) : Option Cursor :=
  match cursor.node.redirects.lookup label with
  | none => cursor.children.find? (·.node.label == some label)
  | some [] => none
  | some (position :: rest) => (cursor.child? position).bind (·.follow rest)

def labelled (cursor : Cursor) (label : String) : List Cursor :=
  cursor.children.filter (·.node.label == some label)

def childOfKinds? (cursor : Cursor) (kinds : List String) : Option Cursor :=
  cursor.children.find? (kinds.contains ·.kind)

def childOfKind? (cursor : Cursor) (kind : String) : Option Cursor :=
  cursor.childOfKinds? [kind]

def hasChild (cursor : Cursor) (kind : String) : Bool :=
  (cursor.childOfKind? kind).isSome

def childrenOfKind (cursor : Cursor) (kind : String) : List Cursor :=
  cursor.children.filter (·.kind == kind)

def isUnder (cursor : Cursor) (kind : String) : Bool :=
  cursor.parent?.any (·.kind == kind)

def index (cursor : Cursor) : Nat :=
  indexIn cursor.context
where
  indexIn : Context → Nat
    | .top => 0
    | .under _ above before => indexIn above + 1 + Node.sizeAll before

theorem node_mem_of_mem_placeAll {cursor parent : Cursor} {before nodes : List Node}
    (member : cursor ∈ placeAll parent before nodes) : cursor.node ∈ nodes := by
  induction nodes generalizing before with
  | nil => cases member
  | cons node rest ih =>
      cases member with
      | head => exact List.mem_cons_self
      | tail _ later => exact List.mem_cons_of_mem _ (ih later)

theorem node_mem_of_mem_children {child cursor : Cursor} (member : child ∈ cursor.children) :
    child.node ∈ cursor.node.children :=
  node_mem_of_mem_placeAll member

theorem size_of_child {child cursor : Cursor} (member : child ∈ cursor.children) :
    child.size < cursor.size :=
  Node.size_lt_of_mem_children (node_mem_of_mem_children member)

theorem size_of_namedChild {child cursor : Cursor} (member : child ∈ cursor.namedChildren) :
    child.size < cursor.size :=
  size_of_child (List.mem_filter.mp member).1

theorem size_of_firstNamed? {child cursor : Cursor} (found : cursor.firstNamed? = some child) :
    child.size < cursor.size :=
  size_of_child (List.mem_of_find?_eq_some found)

theorem size_of_child? {child cursor : Cursor} {position : Nat}
    (found : cursor.child? position = some child) : child.size < cursor.size :=
  size_of_child (List.mem_of_getElem? found)

theorem size_of_follow {target cursor : Cursor} {path : List Nat}
    (found : cursor.follow path = some target) : target.size ≤ cursor.size := by
  induction path generalizing cursor with
  | nil =>
      cases found
      exact Nat.le_refl _
  | cons position rest ih =>
      rw [follow] at found
      cases step : cursor.child? position with
      | none => simp [step] at found
      | some child =>
          rw [step] at found
          exact Nat.le_trans (ih found) (Nat.le_of_lt (size_of_child? step))

theorem size_of_field? {child cursor : Cursor} {label : String}
    (found : cursor.field? label = some child) : child.size < cursor.size := by
  unfold field? at found
  split at found
  · exact size_of_child (List.mem_of_find?_eq_some found)
  · cases found
  · obtain ⟨first, step, rest⟩ := Option.bind_eq_some_iff.mp found
    exact Nat.lt_of_le_of_lt (size_of_follow rest) (size_of_child? step)

theorem size_of_childOfKinds? {child cursor : Cursor} {kinds : List String}
    (found : cursor.childOfKinds? kinds = some child) : child.size < cursor.size :=
  size_of_child (List.mem_of_find?_eq_some found)

theorem size_of_childOfKind? {child cursor : Cursor} {kind : String}
    (found : cursor.childOfKind? kind = some child) : child.size < cursor.size :=
  size_of_childOfKinds? found

theorem size_of_childrenOfKind {child cursor : Cursor} {kind : String}
    (member : child ∈ cursor.childrenOfKind kind) : child.size < cursor.size :=
  size_of_child (List.mem_filter.mp member).1

end Cursor

end CodeOutline
