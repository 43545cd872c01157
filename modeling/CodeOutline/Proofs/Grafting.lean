import CodeOutline.Finding

set_option autoImplicit false

namespace CodeOutline

def Context.graft (base : Context) : Context → Context
  | .top => base
  | .under parent above before => .under parent (graft base above) before

def Cursor.graft (base : Context) (cursor : Cursor) : Cursor :=
  ⟨cursor.node, Context.graft base cursor.context⟩

namespace Cursor

variable (base : Context) (cursor : Cursor)

@[simp] theorem node_graft : (cursor.graft base).node = cursor.node := rfl

@[simp] theorem kind_graft : (cursor.graft base).kind = cursor.kind := rfl

@[simp] theorem start_graft : (cursor.graft base).start = cursor.start := rfl

@[simp] theorem stop_graft : (cursor.graft base).stop = cursor.stop := rfl

theorem placeAll_graft (before nodes : List Node) :
    placeAll (cursor.graft base) before nodes = (placeAll cursor before nodes).map (graft base) := by
  induction nodes generalizing before with
  | nil => rfl
  | cons node rest ih =>
      rw [placeAll, placeAll, List.map_cons, ih]
      rfl

@[simp] theorem children_graft : (cursor.graft base).children = cursor.children.map (graft base) :=
  placeAll_graft base cursor [] cursor.node.children

@[simp] theorem namedChildren_graft :
    (cursor.graft base).namedChildren = cursor.namedChildren.map (graft base) := by
  simp only [namedChildren, children_graft, List.filter_map, Function.comp_def, node_graft]

@[simp] theorem firstNamed?_graft : (cursor.graft base).firstNamed? = cursor.firstNamed?.map (graft base) := by
  simp only [firstNamed?, children_graft, List.find?_map, Function.comp_def, node_graft]

@[simp] theorem child?_graft (position : Nat) :
    (cursor.graft base).child? position = (cursor.child? position).map (graft base) := by
  simp only [child?, children_graft, List.getElem?_map]

theorem follow_graft (path : List Nat) : (cursor.graft base).follow path = (cursor.follow path).map (graft base) := by
  induction path generalizing cursor with
  | nil => rfl
  | cons position rest ih =>
      rw [follow, follow, child?_graft]
      cases cursor.child? position with
      | none => rfl
      | some child => exact ih child

@[simp] theorem field?_graft (label : String) :
    (cursor.graft base).field? label = (cursor.field? label).map (graft base) := by
  rw [field?, field?]
  rw [node_graft]
  cases cursor.node.redirects.lookup label with
  | none => simp only [children_graft, List.find?_map, Function.comp_def, node_graft]
  | some path =>
      cases path with
      | nil => rfl
      | cons position rest =>
          dsimp only
          rw [child?_graft]
          cases cursor.child? position with
          | none => rfl
          | some child => exact follow_graft base child rest

@[simp] theorem labelled_graft (label : String) :
    (cursor.graft base).labelled label = (cursor.labelled label).map (graft base) := by
  simp only [labelled, children_graft, List.filter_map, Function.comp_def, node_graft]

@[simp] theorem childOfKinds?_graft (kinds : List String) :
    (cursor.graft base).childOfKinds? kinds = (cursor.childOfKinds? kinds).map (graft base) := by
  simp only [childOfKinds?, children_graft, List.find?_map, Function.comp_def, kind_graft]

@[simp] theorem childOfKind?_graft (kind : String) :
    (cursor.graft base).childOfKind? kind = (cursor.childOfKind? kind).map (graft base) :=
  childOfKinds?_graft base cursor [kind]

@[simp] theorem hasChild_graft (kind : String) : (cursor.graft base).hasChild kind = cursor.hasChild kind := by
  simp only [hasChild, childOfKind?_graft, Option.isSome_map]

@[simp] theorem childrenOfKind_graft (kind : String) :
    (cursor.graft base).childrenOfKind kind = (cursor.childrenOfKind kind).map (graft base) := by
  simp only [childrenOfKind, children_graft, List.filter_map, Function.comp_def, kind_graft]

@[simp] theorem isComment_graft : (cursor.graft base).isComment = cursor.isComment := rfl

end Cursor

namespace Source

variable (source : Source) (base : Context) (cursor : Cursor)

@[simp] theorem text_graft : source.text (cursor.graft base) = source.text cursor := rfl

@[simp] theorem trimmed_graft : source.trimmed (cursor.graft base) = source.trimmed cursor := rfl

@[simp] theorem spaced_graft : source.spaced (cursor.graft base) = source.spaced cursor := rfl

@[simp] theorem text_comp_graft : source.text ∘ Cursor.graft base = source.text := rfl

@[simp] theorem trimmed_comp_graft : source.trimmed ∘ Cursor.graft base = source.trimmed := rfl

@[simp] theorem spaced_comp_graft : source.spaced ∘ Cursor.graft base = source.spaced := rfl

@[simp] theorem header_graft (stop : Option Cursor) :
    source.header (cursor.graft base) (stop.map (Cursor.graft base)) = source.header cursor stop := by
  cases stop <;> rfl

@[simp] theorem header_some_graft (stop : Cursor) :
    source.header (cursor.graft base) (some (stop.graft base)) = source.header cursor (some stop) := rfl

@[simp] theorem fieldText?_graft (label : String) :
    source.fieldText? (cursor.graft base) label = source.fieldText? cursor label := by
  simp only [fieldText?, Cursor.field?_graft, Option.map_map, text_comp_graft]

@[simp] theorem nameAt_graft : source.nameAt (cursor.graft base) = source.nameAt cursor := by
  simp only [nameAt, fieldText?_graft]

@[simp] theorem modifierWords_graft (list : Option Cursor) :
    source.modifierWords (list.map (Cursor.graft base)) = source.modifierWords list := by
  cases list with
  | none => rfl
  | some list => simp [modifierWords]

end Source

namespace Piece

variable (source : Source) (base : Context)

@[simp] theorem text_excerpt_graft (lead trail : String) (node : Option Cursor) :
    (Piece.excerpt lead (node.map (Cursor.graft base)) trail).text source =
      (Piece.excerpt lead node trail).text source := by
  cases node <;> rfl

@[simp] theorem text_excerpt_some_graft (lead trail : String) (cursor : Cursor) :
    (Piece.excerpt lead (some (cursor.graft base)) trail).text source =
      (Piece.excerpt lead (some cursor) trail).text source := rfl

@[simp] theorem text_field_graft (cursor : Cursor) (label : String) :
    (Piece.field (cursor.graft base) label).text source = (Piece.field cursor label).text source := by
  simp only [field, Cursor.field?_graft, text_excerpt_graft]

@[simp] theorem text_fieldAfter_graft (lead : String) (cursor : Cursor) (label : String) :
    (Piece.fieldAfter lead (cursor.graft base) label).text source = (Piece.fieldAfter lead cursor label).text source := by
  simp only [fieldAfter, Cursor.field?_graft, text_excerpt_graft]

end Piece

end CodeOutline
