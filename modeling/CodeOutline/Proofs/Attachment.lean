import CodeOutline.Documentation
import CodeOutline.Proofs.Nesting
import Mathlib.Data.List.Chain
import Mathlib.Order.Bounds.Basic

set_option autoImplicit false

namespace CodeOutline

namespace Cursor

-- The siblings `nodes`, nearest first, each at its place under `parent`.
def placeBack (parent : Cursor) : List Node → List Cursor
  | [] => []
  | node :: rest => ⟨node, .under parent.node parent.context rest⟩ :: placeBack parent rest

theorem reverse_placeAll (parent : Cursor) (before nodes : List Node) :
    (placeAll parent before nodes).reverse ++ placeBack parent before = placeBack parent (nodes.reverse ++ before) := by
  induction nodes generalizing before with
  | nil => rfl
  | cons node rest ih =>
      rw [placeAll, List.reverse_cons, List.reverse_cons, List.append_assoc, List.append_assoc]
      exact ih (node :: before)

theorem before_of_child {parent child : Cursor} {position : Nat} (there : parent.children[position]? = some child) :
    child.before = (parent.node.children.take position).reverse := by
  have rest : (parent.children.drop position).head? = some child := by
    rw [List.head?_drop, there]
  rw [children, drop_placeAll, List.append_nil] at rest
  cases later : parent.node.children.drop position with
  | nil =>
      rw [later] at rest
      cases rest
  | cons node others =>
      rw [later] at rest
      cases rest
      rfl

theorem siblings_of_child {parent child : Cursor} {position : Nat} (there : parent.children[position]? = some child) :
    (parent.children.take position).reverse = placeBack parent child.before := by
  have placed := reverse_placeAll parent [] (parent.node.children.take position)
  rw [placeBack, List.append_nil, List.append_nil] at placed
  rw [children, take_placeAll, placed, before_of_child there]

def namedBefore (parent : Cursor) (position : Nat) : List Cursor :=
  ((parent.children.take position).filter (·.node.named)).reverse

theorem namedBefore_of_child {parent child : Cursor} {position : Nat}
    (there : parent.children[position]? = some child) :
    parent.namedBefore position = (placeBack parent child.before).filter (·.node.named) := by
  rw [namedBefore, ← List.filter_reverse, siblings_of_child there]

end Cursor

namespace Source

-- A node that ends at the very beginning of a later row than its first ends on the row before that one.
def EndsOn (source : Source) (node : Node) (row : Nat) : Prop :=
  if source.column node.stop = 0 ∧ source.row node.start < source.row node.stop then row + 1 = source.row node.stop
  else row = source.row node.stop

structure Attached (source : Source) (below comment : Cursor) : Prop where
  isComment : comment.isComment
  noGap : ∃ row, source.EndsOn comment.node row ∧ source.row below.start ≤ row + 1
  noCode : ∀ previous, comment.before.head? = some previous →
    previous.isComment ∨ ¬ source.EndsOn previous (source.row comment.start)

-- The first `count` siblings are attached, the nearest one to `below` and every other to the one before it.
def Runs (source : Source) (below : Cursor) (siblings : List Cursor) (count : Nat) : Prop :=
  count ≤ siblings.length ∧ List.IsChain source.Attached (below :: siblings.take count)

variable {source : Source}

theorem endsOn_iff {node : Node} {row : Nat} : source.EndsOn node row ↔ source.bottomRow node = row := by
  simp only [EndsOn, bottomRow]
  split <;> omega

theorem attached_iff {below comment : Cursor} :
    source.Attached below comment ↔
      (comment.node.isComment && source.reaches comment.node (source.row below.start) &&
        !source.followsCode comment.node comment.before) = true := by
  have alone : source.followsCode comment.node comment.before = false ↔
      ∀ previous, comment.before.head? = some previous →
        previous.isComment ∨ ¬ source.EndsOn previous (source.row comment.start) := by
    simp only [endsOn_iff]
    cases comment.before with
    | nil => simp [followsCode]
    | cons previous others => simp [followsCode, Cursor.start, or_iff_not_imp_left]
  have near : source.reaches comment.node (source.row below.start) ↔
      ∃ row, source.EndsOn comment.node row ∧ source.row below.start ≤ row + 1 := by
    simp [reaches, endsOn_iff]
  rw [Bool.and_eq_true, Bool.and_eq_true, Bool.not_eq_true', alone, near]
  constructor
  · intro attached
    exact ⟨⟨attached.isComment, attached.noGap⟩, attached.noCode⟩
  · rintro ⟨⟨isComment, noGap⟩, noCode⟩
    exact ⟨isComment, noGap, noCode⟩

theorem runs_zero (below : Cursor) (siblings : List Cursor) : source.Runs below siblings 0 :=
  ⟨Nat.zero_le _, .singleton below⟩

theorem runs_succ {below sibling : Cursor} {others : List Cursor} {count : Nat} :
    source.Runs below (sibling :: others) (count + 1) ↔
      source.Attached below sibling ∧ source.Runs sibling others count := by
  simp only [Runs, List.length_cons, Nat.add_le_add_iff_right, List.take_succ_cons, List.isChain_cons_cons]
  exact and_left_comm

theorem longest_succ {below sibling : Cursor} {others : List Cursor} {count : Nat}
    (attached : source.Attached below sibling) (longest : IsGreatest {count | source.Runs sibling others count} count) :
    IsGreatest {count | source.Runs below (sibling :: others) count} (count + 1) := by
  refine ⟨runs_succ.mpr ⟨attached, longest.1⟩, fun other run => ?_⟩
  cases other with
  | zero => exact Nat.zero_le _
  | succ other => exact Nat.succ_le_succ (longest.2 (runs_succ.mp run).2)

theorem longest_zero {below : Cursor} {siblings : List Cursor}
    (loose : ∀ sibling others, siblings = sibling :: others → ¬ source.Attached below sibling) :
    IsGreatest {count | source.Runs below siblings count} 0 := by
  refine ⟨runs_zero below siblings, fun other run => ?_⟩
  cases other with
  | zero => exact Nat.le_refl _
  | succ other =>
      cases siblings with
      | nil => exact run.1
      | cons sibling others => exact absurd (runs_succ.mp run).1 (loose sibling others rfl)

-- The search goes back sibling by sibling; what is attached to `below` decides on the first named one, and the
-- rest of the run is that of the sibling itself.
theorem commentRun_longest (source : Source) (parent below : Cursor) (before : List Node) :
    ∃ count,
      IsGreatest {count | source.Runs below ((parent.placeBack before).filter (·.node.named)) count} count ∧
      source.commentRun (source.row below.start) before =
        (((parent.placeBack before).filter (·.node.named)).take count).map (·.node) := by
  induction before generalizing below with
  | nil => exact ⟨0, longest_zero (fun _ _ same => nomatch same), rfl⟩
  | cons sibling others ih =>
      let comment : Cursor := ⟨sibling, .under parent.node parent.context others⟩
      have decides : source.Attached below comment ↔ (sibling.isComment &&
          source.reaches sibling (source.row below.start) && !source.followsCode sibling others) = true := attached_iff
      rw [Cursor.placeBack, commentRun]
      by_cases named : sibling.named
      · have kept : (comment :: parent.placeBack others).filter (·.node.named) =
            comment :: (parent.placeBack others).filter (·.node.named) := List.filter_cons_of_pos named
        rw [kept, if_neg (by simp [named])]
        by_cases attached : source.Attached below comment
        · obtain ⟨count, longest, run⟩ := ih comment
          refine ⟨count + 1, longest_succ attached longest, ?_⟩
          rw [if_pos (decides.mp attached), List.take_succ_cons, List.map_cons, ← run]
          rfl
        · refine ⟨0, longest_zero fun first rest same => ?_, if_neg (mt decides.mpr attached)⟩
          cases same
          exact attached
      · have skipped : (comment :: parent.placeBack others).filter (·.node.named) =
            (parent.placeBack others).filter (·.node.named) := List.filter_cons_of_neg named
        rw [skipped, if_pos (by simp [named])]
        exact ih below

theorem documentation?_of_run {cursor : Cursor} {comments : List Cursor}
    (run : source.commentRun (source.row cursor.start) cursor.before = comments.map (·.node)) :
    source.documentation? cursor =
      if comments = [] then none else some (String.intercalate "\n" (comments.reverse.map source.trimmed)) := by
  rw [documentation?, run]
  cases comments with
  | nil => rfl
  | cons comment others =>
      rw [if_neg (List.cons_ne_nil comment others), List.map_cons]
      dsimp only
      rw [← List.map_cons, ← List.map_reverse, List.map_map]
      rfl

/-- The documentation is the longest run of comments that stand right above a node and above one another. -/
theorem documentation_is_longest_run (source : Source) :
    (∀ tree, source.documentation? (.root tree) = none) ∧
    ∀ (parent child : Cursor) (position : Nat), parent.children[position]? = some child →
      ∃ count, IsGreatest {count | source.Runs child (parent.namedBefore position) count} count ∧
        source.documentation? child =
          if count = 0 then none
          else some (String.intercalate "\n" (((parent.namedBefore position).take count).reverse.map source.trimmed)) := by
  refine ⟨fun tree => rfl, fun parent child position there => ?_⟩
  obtain ⟨count, longest, run⟩ := commentRun_longest source parent child child.before
  rw [← Cursor.namedBefore_of_child there] at longest run
  refine ⟨count, longest, ?_⟩
  have empty : (parent.namedBefore position).take count = [] ↔ count = 0 := by
    have enough := longest.1.1
    rw [List.take_eq_nil_iff]
    refine ⟨?_, .inl⟩
    rintro (none | alone)
    · exact none
    · rw [alone] at enough
      exact Nat.le_zero.mp enough
  rw [documentation?_of_run run]
  simp only [empty]

-- The comments right above `B` and `C` end behind a line feed, at column 0 of the next row.
def enumeratorsText : ByteArray :=
  "\x7b A, // 1\n// 2\nB,\n// 3\n\n// 4\n// 5\nC \x7d\n".toUTF8

def enumeratorsSource : Source :=
  ofBytes .folded enumeratorsText enumeratorsText

def enumerators : Node :=
  .plain "enumerator_list" none 0 37
    [{ Node.plain "\x7b" none 0 1 [] with named := false },
      .plain "enumerator" none 2 3 [],
      { Node.plain "," none 3 4 [] with named := false },
      .plain "comment" none 5 9 [],
      .plain "comment" none 10 15 [],
      .plain "enumerator" none 15 16 [],
      { Node.plain "," none 16 17 [] with named := false },
      .plain "comment" none 18 23 [],
      .plain "comment" none 24 29 [],
      .plain "comment" none 29 34 [],
      .plain "enumerator" none 34 35 [],
      { Node.plain "\x7d" none 36 37 [] with named := false }]

theorem enumerators_documented :
    ∃ second third, (Cursor.root enumerators).children[5]? = some second ∧
      (Cursor.root enumerators).children[10]? = some third ∧
      enumeratorsSource.documentation? second = some "// 2" ∧
      enumeratorsSource.documentation? third = some "// 4\n// 5" ∧
      (∃ comment, (Cursor.root enumerators).children[7]? = some comment ∧ enumeratorsSource.EndsOn comment.node 3 ∧
        enumeratorsSource.row comment.stop = 4) ∧
      (∃ count,
        IsGreatest {count | enumeratorsSource.Runs second ((Cursor.root enumerators).namedBefore 5) count} count ∧
        enumeratorsSource.documentation? second =
          if count = 0 then none
          else some (String.intercalate "\n" ((((Cursor.root enumerators).namedBefore 5).take count).reverse.map
            enumeratorsSource.trimmed))) ∧
      ∃ count,
        IsGreatest {count | enumeratorsSource.Runs third ((Cursor.root enumerators).namedBefore 10) count} count ∧
        enumeratorsSource.documentation? third =
          if count = 0 then none
          else some (String.intercalate "\n" ((((Cursor.root enumerators).namedBefore 10).take count).reverse.map
            enumeratorsSource.trimmed)) := by
  obtain ⟨_, runs⟩ := documentation_is_longest_run enumeratorsSource
  refine ⟨_, _, rfl, rfl, by decide +kernel, by decide +kernel, ⟨_, rfl, ?_, by decide +kernel⟩, runs _ _ 5 rfl,
    runs _ _ 10 rfl⟩
  exact endsOn_iff.mpr (by decide +kernel)

end Source

end CodeOutline
