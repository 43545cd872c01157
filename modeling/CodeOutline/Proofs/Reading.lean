import CodeOutline.Finding
import CodeOutline.Proofs.Nesting

set_option autoImplicit false

namespace CodeOutline

namespace Source

def atop (source : Source) (other : ByteArray) : Source :=
  { source with content := other }

structure AgreesOn (source : Source) (other : ByteArray) (start stop : Nat) : Prop where
  size : source.content.size = other.size
  bytes : ∀ offset, start ≤ offset → offset < stop → source.content.data[offset]? = other.data[offset]?

structure Keeps (source : Source) (other : ByteArray) (cursor : Cursor) : Prop where
  nested : cursor.node.nested
  agrees : source.AgreesOn other cursor.start cursor.stop

def KeepsComments (source : Source) (other : ByteArray) (cursor : Cursor) : Prop :=
  ∀ comment ∈ cursor.before, comment.isComment → source.AgreesOn other comment.start comment.stop

variable {source : Source} {other : ByteArray}

theorem AgreesOn.mono {start stop low high : Nat} (agrees : source.AgreesOn other low high) (lower : low ≤ start)
    (upper : stop ≤ high) : source.AgreesOn other start stop :=
  ⟨agrees.size, fun offset after before =>
    agrees.bytes offset (Nat.le_trans lower after) (Nat.lt_of_lt_of_le before upper)⟩

theorem Keeps.holds {cursor part : Cursor} (kept : source.Keeps other cursor) (holds : cursor.Holds part) :
    source.Keeps other part := by
  obtain ⟨lower, upper, nested⟩ := holds.inside kept.nested
  exact ⟨nested, kept.agrees.mono lower upper⟩

theorem extract_eq_of_agreesOn {start stop : Nat} (agrees : source.AgreesOn other start stop) :
    other.extract start stop = source.content.extract start stop := by
  apply ByteArray.ext
  rw [ByteArray.data_extract, ByteArray.data_extract]
  have size : other.data.size = source.content.data.size := agrees.size.symm
  refine Array.ext_getElem? fun position => ?_
  rw [Array.getElem?_extract, Array.getElem?_extract, size]
  split
  · exact (agrees.bytes (start + position) (by omega) (by omega)).symm
  · rfl

theorem slice_atop {start stop : Nat} (agrees : source.AgreesOn other start stop) :
    (source.atop other).slice start stop = source.slice start stop := by
  have size : other.size = source.content.size := agrees.size.symm
  simp only [slice, atop, size, extract_eq_of_agreesOn agrees]

section Node

variable {cursor : Cursor}

theorem text_atop (kept : source.Keeps other cursor) : (source.atop other).text cursor = source.text cursor :=
  slice_atop kept.agrees

theorem trimmed_atop (kept : source.Keeps other cursor) :
    (source.atop other).trimmed cursor = source.trimmed cursor := by
  rw [trimmed, trimmed, text_atop kept]

theorem spaced_atop (kept : source.Keeps other cursor) : (source.atop other).spaced cursor = source.spaced cursor := by
  rw [spaced, spaced, text_atop kept]
  rfl

theorem header_atop {stop : Option Cursor} (agrees : source.AgreesOn other cursor.start (headerStop cursor stop)) :
    (source.atop other).header cursor stop = source.header cursor stop := by
  rw [header, header, slice_atop agrees]
  rfl

theorem map_text_atop {found : Option Cursor} (kept : ∀ node, found = some node → source.Keeps other node) :
    found.map (source.atop other).text = found.map source.text := by
  cases found with
  | none => rfl
  | some node => exact congrArg some (text_atop (kept node rfl))

theorem fieldText?_atop {label : String}
    (kept : ∀ node, cursor.field? label = some node → source.Keeps other node) :
    (source.atop other).fieldText? cursor label = source.fieldText? cursor label :=
  map_text_atop kept

theorem nameAt_atop (kept : ∀ node, cursor.field? "name" = some node → source.Keeps other node) :
    (source.atop other).nameAt cursor = source.nameAt cursor := by
  rw [nameAt, nameAt, fieldText?_atop kept]

end Node

theorem commentRun_atop (source : Source) (other : ByteArray) (boundary : Nat) (before : List Node) :
    (source.atop other).commentRun boundary before = source.commentRun boundary before := by
  induction before generalizing boundary with
  | nil => rfl
  | cons sibling rest ih =>
      rw [commentRun, commentRun, ih, ih]
      rfl

theorem mem_of_commentRun {boundary : Nat} {before : List Node} {comment : Node}
    (member : comment ∈ source.commentRun boundary before) : comment ∈ before ∧ comment.isComment := by
  induction before generalizing boundary with
  | nil => cases member
  | cons sibling rest ih =>
      rw [commentRun] at member
      split at member
      · exact ⟨List.mem_cons_of_mem _ (ih member).1, (ih member).2⟩
      · split at member
        case isTrue attached =>
            cases member with
            | head => exact ⟨List.mem_cons_self, by simp_all⟩
            | tail _ later => exact ⟨List.mem_cons_of_mem _ (ih later).1, (ih later).2⟩
        case isFalse => cases member

theorem documentation?_atop {cursor : Cursor} (kept : source.KeepsComments other cursor) :
    (source.atop other).documentation? cursor = source.documentation? cursor := by
  have run : (source.atop other).commentRun ((source.atop other).row cursor.start) cursor.before =
      source.commentRun (source.row cursor.start) cursor.before := commentRun_atop source other _ _
  have texts : ∀ comment ∈ source.commentRun (source.row cursor.start) cursor.before,
      (source.atop other).nodeText comment = source.nodeText comment := by
    intro comment member
    obtain ⟨within, isComment⟩ := mem_of_commentRun member
    exact slice_atop (kept comment within isComment)
  rw [documentation?, documentation?]
  rw [run]
  generalize source.commentRun (source.row cursor.start) cursor.before = comments at texts ⊢
  cases comments with
  | nil => rfl
  | cons first rest =>
      have each : ((first :: rest).reverse.map fun comment => Text.trim ((source.atop other).nodeText comment)) =
          (first :: rest).reverse.map fun comment => Text.trim (source.nodeText comment) :=
        List.map_congr_left fun comment member => by rw [texts comment (List.mem_reverse.mp member)]
      exact congrArg (fun lines => some (String.intercalate "\n" lines)) each

theorem declare_atop {place : Cursor} (kept : source.KeepsComments other place) (name : String) (kind : Kind)
    (details : Details) : (source.atop other).declare place name kind details = source.declare place name kind details := by
  rw [declare, declare, documentation?_atop kept]
  rfl

theorem leaf_atop {place : Cursor} (kept : source.KeepsComments other place) (name : String) (kind : Kind)
    (details : Details) : (source.atop other).leaf place name kind details = source.leaf place name kind details := by
  rw [leaf, leaf, declare_atop kept]

end Source

namespace Piece

def node? : Piece → Option Cursor
  | .excerpt _ node _ => node
  | _ => none

theorem text_atop {source : Source} {other : ByteArray} {piece : Piece}
    (kept : ∀ node, piece.node? = some node → source.Keeps other node) :
    piece.text (source.atop other) = piece.text source := by
  cases piece with
  | word text => rfl
  | modifiers list => cases list <;> rfl
  | excerpt lead node trail =>
      cases node with
      | none => rfl
      | some node => simp only [text, Source.trimmed_atop (kept node rfl)]

end Piece

end CodeOutline
