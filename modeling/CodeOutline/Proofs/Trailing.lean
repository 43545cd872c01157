import CodeOutline.Proofs.Attachment
import CodeOutline.Proofs.Positions

set_option autoImplicit false

namespace CodeOutline

namespace Cursor

theorem mem_children_of_placeBack {parent child comment : Cursor} {position : Nat}
    (there : parent.children[position]? = some child) (member : comment ∈ parent.placeBack child.before) :
    comment ∈ parent.children := by
  rw [← siblings_of_child there] at member
  exact List.mem_of_mem_take (List.mem_reverse.mp member)

theorem before_ordered {parent child : Cursor} (ordered : parent.node.nested) (member : child ∈ parent.children) :
    child.before.Pairwise (fun later earlier => earlier.stop ≤ later.start) ∧
      ∀ node ∈ child.before, node.start ≤ node.stop ∧ node.stop ≤ child.start := by
  obtain ⟨front, back, split, siblings⟩ := split_of_mem_placeAll member
  have inside := Node.nestedFrom_children ordered
  have nodes := Node.pairwise_of_nestedFrom inside
  rw [split, List.pairwise_append] at nodes
  rw [siblings, List.append_nil]
  refine ⟨List.pairwise_reverse.mpr nodes.1, fun node earlier => ?_⟩
  have among : node ∈ front := List.mem_reverse.mp earlier
  have nested := (Node.range_of_mem inside (split ▸ List.mem_append_left _ among)).2.2
  exact ⟨Node.start_le_stop node nested, nodes.2.2 node among child.node List.mem_cons_self⟩

end Cursor

namespace Source

variable {source : Source}

theorem bottomRow_le (source : Source) (node : Node) : source.bottomRow node ≤ source.row node.stop := by
  simp only [bottomRow]
  split <;> omega

theorem row_le_bottomRow (source : Source) {node : Node} (width : node.start ≤ node.stop) :
    source.row node.start ≤ source.bottomRow node := by
  have rows := source.row_le width
  simp only [bottomRow]
  split <;> omega

def documenting (source : Source) (parent child : Cursor) : List Cursor :=
  ((parent.placeBack child.before).filter (·.node.named)).take
    (source.commentRun (source.row child.start) child.before).length

theorem attached_of_isChain {below : Cursor} {comments : List Cursor}
    (chain : List.IsChain source.Attached (below :: comments)) :
    ∀ comment ∈ comments, ∃ lower, source.Attached lower comment := by
  induction comments generalizing below with
  | nil => exact List.forall_mem_nil _
  | cons first rest ih =>
      obtain ⟨attached, later⟩ := List.isChain_cons_cons.mp chain
      exact List.forall_mem_cons.mpr ⟨⟨below, attached⟩, ih later⟩

theorem documenting_run (source : Source) (parent child : Cursor) :
    source.commentRun (source.row child.start) child.before = (source.documenting parent child).map (·.node) ∧
      ∀ comment ∈ source.documenting parent child, ∃ below, source.Attached below comment := by
  obtain ⟨count, longest, run⟩ := commentRun_longest source parent child child.before
  have length : (source.commentRun (source.row child.start) child.before).length = count := by
    rw [run, List.length_map, List.length_take, Nat.min_eq_left longest.1.1]
  rw [documenting, length]
  exact ⟨run, attached_of_isChain longest.1.2⟩

-- Rows grow from sibling to sibling, so whatever stands between the code and the comment is on their row.
theorem comment_before_trailer {parent comment below : Cursor} {code : Node} (ordered : parent.node.nested)
    (member : comment ∈ parent.children) (attached : source.Attached below comment) (earlier : code ∈ comment.before)
    (sameRow : source.bottomRow code = source.row comment.start) :
    ∃ previous, comment.before.head? = some previous ∧ previous.isComment ∧
      source.bottomRow previous = source.row comment.start := by
  obtain ⟨order, inside⟩ := Cursor.before_ordered ordered member
  have noCode := attached.noCode
  simp only [endsOn_iff] at noCode
  cases siblings : comment.before with
  | nil =>
      rw [siblings] at earlier
      cases earlier
  | cons previous others =>
      rw [siblings] at earlier order inside noCode
      have onRow : source.bottomRow previous = source.row comment.start := by
        rcases List.mem_cons.mp earlier with rfl | further
        · exact sameRow
        · obtain ⟨width, ends⟩ := inside previous List.mem_cons_self
          have := source.bottomRow_le code
          have := source.row_le ((List.pairwise_cons.mp order).1 code further)
          have := source.row_le_bottomRow width
          have := source.bottomRow_le previous
          have := source.row_le ends
          omega
      refine ⟨previous, rfl, ?_, onRow⟩
      exact (noCode previous rfl).resolve_right (absurd onRow)

/-- Where siblings follow one another in nested ranges, a documenting comment on the last row of an earlier sibling
that is no comment has a comment on the same row right before it. -/
theorem trailing_comment_behind_comment (source : Source) {parent child : Cursor} {position : Nat}
    (ordered : parent.node.nested) (there : parent.children[position]? = some child) :
    (source.documentation? child =
      if source.documenting parent child = [] then none
      else some (String.intercalate "\n" ((source.documenting parent child).reverse.map source.trimmed))) ∧
    ∀ comment ∈ source.documenting parent child, comment ∈ parent.children ∧ comment.isComment ∧
      ∀ code ∈ comment.before, code.isComment = false → source.bottomRow code = source.row comment.start →
        ∃ previous, comment.before.head? = some previous ∧ previous.isComment ∧
          source.bottomRow previous = source.row comment.start := by
  obtain ⟨run, attached⟩ := source.documenting_run parent child
  refine ⟨documentation?_of_run run, fun comment member => ?_⟩
  have placed : comment ∈ parent.children :=
    Cursor.mem_children_of_placeBack there (List.mem_filter.mp (List.mem_of_mem_take member)).1
  obtain ⟨below, holds⟩ := attached comment member
  exact ⟨placed, holds.isComment, fun code earlier _ => comment_before_trailer ordered placed holds earlier⟩

def trailersText : ByteArray :=
  "int f0(int a); /* t */ // u\nint f0(int a);\n".toUTF8

def trailersSource : Source :=
  .ofBytes .folded trailersText trailersText

def prototype (start : Nat) : Node :=
  .plain "declaration" none start (start + 14)
    [.plain "primitive_type" (some "type") start (start + 3) [],
      .plain "function_declarator" (some "declarator") (start + 4) (start + 13)
        [.plain "identifier" (some "declarator") (start + 4) (start + 6) [],
          .plain "parameter_list" (some "parameters") (start + 6) (start + 13)
            [{ Node.plain "(" none (start + 6) (start + 7) [] with named := false },
              .plain "parameter_declaration" none (start + 7) (start + 12)
                [.plain "primitive_type" (some "type") (start + 7) (start + 10) [],
                  .plain "identifier" (some "declarator") (start + 11) (start + 12) []],
              { Node.plain ")" none (start + 12) (start + 13) [] with named := false }]],
      { Node.plain ";" none (start + 13) (start + 14) [] with named := false }]

def trailers : Node :=
  .plain "translation_unit" none 0 43
    [prototype 0,
      { Node.plain "comment" none 15 22 [] with extra := true },
      { Node.plain "comment" none 23 27 [] with extra := true },
      prototype 28]

-- The second comment shares its row with the first declaration and still documents the other one.
theorem trailers_document :
    ∃ child, trailers.nested ∧ (Cursor.root trailers).children[3]? = some child ∧
      trailersSource.documentation? child = some "// u" ∧
      ∃ comment ∈ trailersSource.documenting (.root trailers) child, trailersSource.trimmed comment = "// u" ∧
        ∃ code ∈ comment.before, code.isComment = false ∧
          trailersSource.bottomRow code = trailersSource.row comment.start :=
  ⟨_, by decide +kernel, rfl, by decide +kernel, _, List.mem_of_getElem? (i := 0) rfl, by decide +kernel, _,
    List.mem_of_getElem? (i := 1) rfl, by decide +kernel, by decide +kernel⟩

theorem trailers_follow_comment :
    ∃ child, trailers.nested ∧ (Cursor.root trailers).children[3]? = some child ∧
      ∃ comment ∈ trailersSource.documenting (.root trailers) child, ∃ code ∈ comment.before,
        code.isComment = false ∧ trailersSource.bottomRow code = trailersSource.row comment.start ∧
        ∃ previous, comment.before.head? = some previous ∧ previous.isComment ∧
          trailersSource.bottomRow previous = trailersSource.row comment.start := by
  have ordered : trailers.nested := by decide +kernel
  obtain ⟨child, there, comment, member, code, earlier, isCode, sameRow⟩ :
      ∃ child, (Cursor.root trailers).children[3]? = some child ∧
        ∃ comment ∈ trailersSource.documenting (.root trailers) child, ∃ code ∈ comment.before,
          code.isComment = false ∧ trailersSource.bottomRow code = trailersSource.row comment.start :=
    ⟨_, rfl, _, List.mem_of_getElem? (i := 0) rfl, _, List.mem_of_getElem? (i := 1) rfl, by decide +kernel,
      by decide +kernel⟩
  obtain ⟨_, comments⟩ := trailing_comment_behind_comment trailersSource ordered there
  exact ⟨child, ordered, there, comment, member, code, earlier, isCode, sameRow,
    (comments comment member).2.2 code earlier isCode sameRow⟩

end Source

end CodeOutline
