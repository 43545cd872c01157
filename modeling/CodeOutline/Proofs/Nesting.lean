import CodeOutline.Tree.Listing
import Mathlib.Data.List.Pairwise

set_option autoImplicit false

namespace CodeOutline

namespace Node

mutual
def nested : Node → Bool
  | ⟨shape, children⟩ => nestedFrom shape.start shape.stop children
def nestedFrom (low high : Nat) : List Node → Bool
  | [] => decide (low ≤ high)
  | node :: rest => decide (low ≤ node.start) && node.nested && nestedFrom node.stop high rest
end

theorem nestedFrom_cons {low high : Nat} {node : Node} {rest : List Node}
    (ordered : nestedFrom low high (node :: rest)) :
    low ≤ node.start ∧ node.nested ∧ nestedFrom node.stop high rest := by
  simpa [nestedFrom, and_assoc] using ordered

mutual
theorem start_le_stop (node : Node) (ordered : node.nested) : node.start ≤ node.stop := by
  cases node with
  | mk shape children =>
      rw [nested] at ordered
      exact low_le_high shape.start shape.stop children ordered
theorem low_le_high (low high : Nat) (nodes : List Node) (ordered : nestedFrom low high nodes) : low ≤ high := by
  cases nodes with
  | nil => simpa [nestedFrom] using ordered
  | cons node rest =>
      obtain ⟨after, inside, later⟩ := nestedFrom_cons ordered
      have width := start_le_stop node inside
      have remaining := low_le_high node.stop high rest later
      omega
end

theorem nestedFrom_children {node : Node} (ordered : node.nested) :
    nestedFrom node.start node.stop node.children := by
  cases node
  rwa [nested] at ordered

theorem range_of_mem {low high : Nat} {nodes : List Node} {node : Node} (ordered : nestedFrom low high nodes)
    (member : node ∈ nodes) : low ≤ node.start ∧ node.stop ≤ high ∧ node.nested := by
  induction nodes generalizing low with
  | nil => cases member
  | cons head rest ih =>
      obtain ⟨after, inside, later⟩ := nestedFrom_cons ordered
      cases member with
      | head => exact ⟨after, low_le_high _ _ _ later, inside⟩
      | tail _ within =>
          obtain ⟨lower, upper, nestedNode⟩ := ih later within
          have width := start_le_stop head inside
          exact ⟨by omega, upper, nestedNode⟩

theorem pairwise_of_nestedFrom {low high : Nat} {nodes : List Node} (ordered : nestedFrom low high nodes) :
    nodes.Pairwise fun a b => a.stop ≤ b.start := by
  induction nodes generalizing low with
  | nil => exact .nil
  | cons head rest ih =>
      obtain ⟨_, _, later⟩ := nestedFrom_cons ordered
      exact .cons (fun node member => (range_of_mem later member).1) (ih later)

def plain (kind : String) (label : Option String) (start stop : Nat) (children : List Node) : Node where
  kind := kind
  label := label
  named := true
  extra := false
  isError := false
  hasError := false
  start := start
  stop := stop
  redirects := []
  children := children

end Node

namespace Cursor

inductive Holds : Cursor → Cursor → Prop where
  | here (cursor : Cursor) : Holds cursor cursor
  | deeper {cursor child target : Cursor} (member : child ∈ cursor.children) (rest : Holds child target) :
      Holds cursor target

namespace Holds

theorem child {cursor child : Cursor} (member : child ∈ cursor.children) : cursor.Holds child :=
  .deeper member (.here child)

theorem trans {a b c : Cursor} (upper : a.Holds b) (lower : b.Holds c) : a.Holds c := by
  induction upper with
  | here => exact lower
  | deeper member _ ih => exact .deeper member (ih lower)

theorem namedChild {cursor child : Cursor} (member : child ∈ cursor.namedChildren) : cursor.Holds child :=
  .child (List.mem_filter.mp member).1

theorem firstNamed? {cursor child : Cursor} (found : cursor.firstNamed? = some child) : cursor.Holds child :=
  .child (List.mem_of_find?_eq_some found)

theorem child? {cursor child : Cursor} {position : Nat} (found : cursor.child? position = some child) :
    cursor.Holds child :=
  .child (List.mem_of_getElem? found)

theorem follow {cursor target : Cursor} {path : List Nat} (found : cursor.follow path = some target) :
    cursor.Holds target := by
  induction path generalizing cursor with
  | nil =>
      cases found
      exact .here _
  | cons position rest ih =>
      rw [Cursor.follow] at found
      cases step : cursor.child? position with
      | none => simp [step] at found
      | some next =>
          rw [step] at found
          exact (child? step).trans (ih found)

theorem field? {cursor target : Cursor} {label : String} (found : cursor.field? label = some target) :
    cursor.Holds target := by
  rw [Cursor.field?] at found
  split at found
  · exact .child (List.mem_of_find?_eq_some found)
  · cases found
  · obtain ⟨first, step, rest⟩ := Option.bind_eq_some_iff.mp found
    exact (child? step).trans (follow rest)

theorem childOfKinds? {cursor child : Cursor} {kinds : List String}
    (found : cursor.childOfKinds? kinds = some child) : cursor.Holds child :=
  .child (List.mem_of_find?_eq_some found)

theorem childOfKind? {cursor child : Cursor} {kind : String} (found : cursor.childOfKind? kind = some child) :
    cursor.Holds child :=
  childOfKinds? found

theorem childrenOfKind {cursor child : Cursor} {kind : String} (member : child ∈ cursor.childrenOfKind kind) :
    cursor.Holds child :=
  .child (List.mem_filter.mp member).1

end Holds

theorem parent?_of_mem_placeAll {parent cursor : Cursor} {before nodes : List Node}
    (member : cursor ∈ placeAll parent before nodes) : cursor.parent? = some parent := by
  induction nodes generalizing before with
  | nil => cases member
  | cons node rest ih =>
      cases member with
      | head => rfl
      | tail _ later => exact ih later

theorem Holds.parent? {cursor target : Cursor} (holds : cursor.Holds target) :
    target = cursor ∨ ∃ parent, target.parent? = some parent ∧ cursor.Holds parent := by
  induction holds with
  | here => exact .inl rfl
  | @deeper cursor child target member _ ih =>
      rcases ih with rfl | ⟨parent, found, inside⟩
      · exact .inr ⟨cursor, parent?_of_mem_placeAll member, .here cursor⟩
      · exact .inr ⟨parent, found, .deeper member inside⟩

theorem Holds.parent_of_root {tree : Node} {target parent : Cursor} (holds : (root tree).Holds target)
    (found : target.parent? = some parent) : (root tree).Holds parent := by
  rcases holds.parent? with rfl | ⟨other, foundToo, inside⟩
  · cases found
  · rw [found] at foundToo
    cases foundToo
    exact inside

theorem nodes_of_placeAll (parent : Cursor) (before nodes : List Node) :
    (placeAll parent before nodes).map (·.node) = nodes := by
  induction nodes generalizing before with
  | nil => rfl
  | cons node rest ih => simp [placeAll, ih]

theorem nodes_of_children (cursor : Cursor) : cursor.children.map (·.node) = cursor.node.children :=
  nodes_of_placeAll cursor [] cursor.node.children

theorem take_placeAll (parent : Cursor) (before nodes : List Node) (count : Nat) :
    (placeAll parent before nodes).take count = placeAll parent before (nodes.take count) := by
  induction nodes generalizing before count with
  | nil => simp [placeAll]
  | cons node rest ih =>
      cases count with
      | zero => rfl
      | succ count => simp only [placeAll, List.take_succ_cons, ih]

theorem drop_placeAll (parent : Cursor) (before nodes : List Node) (count : Nat) :
    (placeAll parent before nodes).drop count =
      placeAll parent ((nodes.take count).reverse ++ before) (nodes.drop count) := by
  induction nodes generalizing before count with
  | nil => simp [placeAll]
  | cons node rest ih =>
      cases count with
      | zero => rfl
      | succ count => simp [placeAll, ih]

theorem children_ordered {cursor : Cursor} (ordered : cursor.node.nested) :
    cursor.children.Pairwise fun a b => a.stop ≤ b.start := by
  have nodes := Node.pairwise_of_nestedFrom (Node.nestedFrom_children ordered)
  rw [← nodes_of_children cursor, List.pairwise_map] at nodes
  exact nodes

theorem children_apart {cursor a b : Cursor} (ordered : cursor.node.nested) (memberA : a ∈ cursor.children)
    (memberB : b ∈ cursor.children) : a = b ∨ a.stop ≤ b.start ∨ b.stop ≤ a.start := by
  by_cases same : a = b
  · exact .inl same
  · have apart : cursor.children.Pairwise fun a b => a.stop ≤ b.start ∨ b.stop ≤ a.start :=
      (children_ordered ordered).imp .inl
    have symmetric : Std.Symm fun a b : Cursor => a.stop ≤ b.start ∨ b.stop ≤ a.start := ⟨fun _ _ => Or.symm⟩
    exact .inr (apart.forall memberA memberB same)

theorem split_of_mem_placeAll {parent cursor : Cursor} {before nodes : List Node}
    (member : cursor ∈ placeAll parent before nodes) :
    ∃ earlier later, nodes = earlier ++ cursor.node :: later ∧ cursor.before = earlier.reverse ++ before := by
  induction nodes generalizing before with
  | nil => cases member
  | cons node rest ih =>
      cases member with
      | head => exact ⟨[], rest, rfl, rfl⟩
      | tail _ later =>
          obtain ⟨earlier, after, split, siblings⟩ := ih later
          refine ⟨node :: earlier, after, by rw [split]; rfl, ?_⟩
          rw [siblings, List.reverse_cons, List.append_assoc]
          rfl

theorem sibling_of_before {parent child : Cursor} {node : Node} (ordered : parent.node.nested)
    (member : child ∈ parent.children) (earlier : node ∈ child.before) :
    ∃ sibling ∈ parent.children, sibling.node = node ∧ node.stop ≤ child.start := by
  obtain ⟨front, back, split, siblings⟩ := split_of_mem_placeAll member
  have inFront : node ∈ front := by simpa [siblings] using earlier
  have within : node ∈ parent.children.map (·.node) := by
    rw [nodes_of_children, split]
    exact List.mem_append_left _ inFront
  obtain ⟨sibling, among, same⟩ := List.mem_map.mp within
  have nodes := Node.pairwise_of_nestedFrom (Node.nestedFrom_children ordered)
  rw [split, List.pairwise_append] at nodes
  exact ⟨sibling, among, same, nodes.2.2 node inFront child.node List.mem_cons_self⟩

theorem Holds.inside {cursor target : Cursor} (holds : cursor.Holds target) (ordered : cursor.node.nested) :
    cursor.start ≤ target.start ∧ target.stop ≤ cursor.stop ∧ target.node.nested := by
  induction holds with
  | here => exact ⟨Nat.le_refl _, Nat.le_refl _, ordered⟩
  | @deeper parent child target member _ ih =>
      obtain ⟨lower, upper, nestedChild⟩ :=
        Node.range_of_mem (Node.nestedFrom_children ordered) (node_mem_of_mem_children member)
      obtain ⟨start, stop, nestedTarget⟩ := ih nestedChild
      exact ⟨Nat.le_trans lower start, Nat.le_trans stop upper, nestedTarget⟩

end Cursor

namespace Listing

theorem mem_allBelow_of_child {parent child target : Cursor} {before nodes : List Node}
    (member : child ∈ Cursor.placeAll parent before nodes) (below : target ∈ below child.context child.node) :
    target ∈ allBelow parent.node parent.context before nodes := by
  induction nodes generalizing before with
  | nil => cases member
  | cons node rest ih =>
      rw [allBelow]
      cases member with
      | head => exact List.mem_append_left _ below
      | tail _ later => exact List.mem_append_right _ (ih later)

theorem mem_below_of_holds {cursor target : Cursor} (holds : cursor.Holds target) :
    target ∈ below cursor.context cursor.node := by
  induction holds with
  | here cursor =>
      obtain ⟨⟨shape, children⟩, context⟩ := cursor
      rw [below]
      exact List.mem_cons_self
  | @deeper cursor child target member _ ih =>
      obtain ⟨⟨shape, children⟩, context⟩ := cursor
      rw [below]
      exact List.mem_cons_of_mem _ (mem_allBelow_of_child member ih)

end Listing

end CodeOutline
