import CodeOutline.Finding

set_option autoImplicit false

namespace CodeOutline

namespace Source

theorem row_le (source : Source) {first last : Nat} (le : first ≤ last) : source.row first ≤ source.row last := by
  apply List.countP_mono_left
  intro place _ early
  simp only [decide_eq_true_eq] at early ⊢
  omega

theorem early_of_same_row {source : Source} {first last place : Nat} (le : first ≤ last)
    (same : source.row first = source.row last) (member : place ∈ source.breaks) (early : place < last) :
    place < first := by
  have part : (source.breaks.filter (· < first)).Sublist (source.breaks.filter (· < last)) := by
    have narrowed : source.breaks.filter (· < first) = (source.breaks.filter (· < last)).filter (· < first) := by
      rw [List.filter_filter]
      apply List.filter_congr
      intro place _
      simp only [decide_eq_decide, ← Bool.decide_and]
      omega
    rw [narrowed]
    exact List.filter_sublist
  have whole := part.eq_of_length (by simpa only [row, List.countP_eq_length_filter] using same)
  have kept : place ∈ source.breaks.filter (· < first) := by
    rw [whole]
    simp [member, early]
  simpa using (List.mem_filter.mp kept).2

theorem lineStart_of_same_row {source : Source} {first last : Nat} (le : first ≤ last)
    (same : source.row first = source.row last) : source.lineStart first = source.lineStart last := by
  have agree : ∀ place ∈ source.breaks, (place < first ↔ place < last) := fun place member =>
    ⟨fun early => Nat.lt_of_lt_of_le early le, early_of_same_row le same member⟩
  rw [lineStart, lineStart]
  generalize source.breaks = breaks at agree ⊢
  generalize 0 = start
  induction breaks generalizing start with
  | nil => rfl
  | cons place rest ih =>
      simp only [List.foldl_cons, agree place List.mem_cons_self]
      exact ih (fun other member => agree other (List.mem_cons_of_mem _ member)) _

theorem column_le {source : Source} {first last : Nat} (le : first ≤ last)
    (same : source.row first = source.row last) : source.column first ≤ source.column last := by
  rw [column, column]
  rw [lineStart_of_same_row le same]
  omega

-- Up to `limit`, lines and columns are told apart in 32 bits.
def Fits (source : Source) (limit : Nat) : Prop :=
  ∀ offset ≤ limit, source.row offset < UInt32.size - 1 ∧ source.column offset < UInt32.size - 1

theorem length_breaksFrom (offset : Nat) (bytes : List UInt8) : (breaksFrom offset bytes).length ≤ bytes.length := by
  induction bytes generalizing offset with
  | nil => simp [breaksFrom]
  | cons b rest ih =>
      have shorter := ih (offset + 1)
      by_cases feed : b = 0x0A
      · simpa [breaksFrom, feed] using shorter
      · simp only [breaksFrom, if_neg feed, List.length_cons]
        omega

theorem fits_of_size (spacing : Spacing) {parsed : ByteArray} (content : ByteArray)
    (small : parsed.size < UInt32.size - 1) : (ofBytes spacing parsed content).Fits parsed.size := by
  intro offset le
  have rows : (ofBytes spacing parsed content).row offset ≤ parsed.size :=
    Nat.le_trans List.countP_le_length (length_breaksFrom 0 parsed.data.toList)
  have columns : (ofBytes spacing parsed content).column offset ≤ offset := Nat.sub_le _ _
  omega

theorem toNat_line {source : Source} {limit offset : Nat} (fits : source.Fits limit) (le : offset ≤ limit) :
    (source.line offset).toNat = source.row offset + 1 := by
  have bound := (fits offset le).1
  simp only [UInt32.size] at bound
  simp only [line, Nat.toUInt32_eq, UInt32.toNat_ofNat']
  omega

theorem toNat_column {source : Source} {limit offset : Nat} (fits : source.Fits limit) (le : offset ≤ limit) :
    (source.column offset).toUInt32.toNat = source.column offset := by
  have bound := (fits offset le).2
  simp only [UInt32.size] at bound
  simp only [Nat.toUInt32_eq, UInt32.toNat_ofNat']
  omega

theorem line_le {source : Source} {limit first last : Nat} (fits : source.Fits limit) (le : first ≤ last)
    (within : last ≤ limit) : source.line first ≤ source.line last := by
  rw [UInt32.le_iff_toNat_le, toNat_line fits (Nat.le_trans le within), toNat_line fits within]
  exact Nat.succ_le_succ (source.row_le le)

end Source

namespace Declaration

def StartsBy (a b : Declaration) : Prop :=
  a.startLine < b.startLine ∨ a.startLine = b.startLine ∧ a.startColumn ≤ b.startColumn

structure Spans (source : Source) (declaration : Declaration) (first last : Nat) : Prop where
  startLine : declaration.startLine = source.line first
  startColumn : declaration.startColumn = (source.column first).toUInt32
  endLine : declaration.endLine = source.line last

theorem declare_spans (source : Source) (place : Cursor) (name : String) (kind : Kind) (details : Details) :
    (source.declare place name kind details).Spans source place.start place.stop :=
  ⟨rfl, rfl, rfl⟩

namespace Spans

variable {source : Source} {limit : Nat} {a b : Declaration} {first last start stop : Nat}

theorem startsBy (left : a.Spans source first last) (right : b.Spans source start stop) (fits : source.Fits limit)
    (le : first ≤ start) (within : start ≤ limit) : a.StartsBy b := by
  rw [StartsBy]
  rw [left.startLine, right.startLine, left.startColumn, right.startColumn, UInt32.lt_iff_toNat_lt,
    ← UInt32.toNat_inj, UInt32.le_iff_toNat_le, Source.toNat_line fits (Nat.le_trans le within),
    Source.toNat_line fits within, Source.toNat_column fits (Nat.le_trans le within), Source.toNat_column fits within]
  have rows := source.row_le le
  by_cases same : source.row first = source.row start
  · exact .inr ⟨congrArg (· + 1) same, Source.column_le le same⟩
  · exact .inl (by omega)

theorem endsBefore (left : a.Spans source first last) (right : b.Spans source start stop)
    (fits : source.Fits limit) (le : last ≤ start) (within : start ≤ limit) : a.endLine ≤ b.startLine := by
  rw [left.endLine, right.startLine]
  exact Source.line_le fits le within

theorem endsBy (left : a.Spans source first last) (right : b.Spans source start stop) (fits : source.Fits limit)
    (le : last ≤ stop) (within : stop ≤ limit) : a.endLine ≤ b.endLine := by
  rw [left.endLine, right.endLine]
  exact Source.line_le fits le within

end Spans

end Declaration

end CodeOutline
