import CodeOutline.Proofs.Folding
import CodeOutline.Proofs.Frames
import CodeOutline.Proofs.Headers
import CodeOutline.Proofs.Visits

set_option autoImplicit false

namespace CodeOutline

structure Excerpt (tree : Node) where
  cursor : Cursor
  within : (Cursor.root tree).Holds cursor
  stop : Nat
  starts : cursor.start ≤ stop
  ends : stop ≤ cursor.stop

namespace Excerpt

variable {tree : Node}

def text (source : Source) (excerpt : Excerpt tree) : String :=
  Spacing.folded.apply (source.slice excerpt.cursor.start excerpt.stop)

theorem headerStop_inside {cursor : Cursor} {cut : Option Cursor} (ordered : cursor.node.nested)
    (held : ∀ stop, cut = some stop → cursor.Holds stop) :
    cursor.start ≤ Source.headerStop cursor cut ∧ Source.headerStop cursor cut ≤ cursor.stop := by
  cases cut with
  | none => exact ⟨Node.start_le_stop cursor.node ordered, Nat.le_refl _⟩
  | some stop =>
      obtain ⟨lower, upper, nested⟩ := (held stop rfl).inside ordered
      rw [Source.headerStop, if_pos lower]
      exact ⟨lower, Nat.le_trans (Node.start_le_stop stop.node nested) upper⟩

theorem of_header {source : Source} {cursor : Cursor} {cut : Option Cursor} (folds : source.spacing = .folded)
    (ordered : tree.nested) (within : (Cursor.root tree).Holds cursor)
    (held : ∀ stop, cut = some stop → cursor.Holds stop) :
    ∃ excerpt : Excerpt tree, excerpt.cursor = cursor ∧ excerpt.text source = source.header cursor cut := by
  obtain ⟨starts, ends⟩ := headerStop_inside (within.inside ordered).2.2 held
  refine ⟨⟨cursor, within, Source.headerStop cursor cut, starts, ends⟩, rfl, ?_⟩
  rw [Source.header, folds]
  rfl

end Excerpt

def Finding.Shows (text : String) (finding : Finding) : Prop :=
  text ≠ "" → finding.declaration.signature = text

theorem Source.declare_shows (source : Source) (place : Cursor) (name : String) (kind : Kind) {details : Details}
    (members : Option Cursor) {text : String} (assembled : details.signature = some text) :
    (⟨source.declare place name kind details, members⟩ : Finding).Shows text := by
  intro filled
  simp [declare, assembled, Option.filter, filled]

theorem Source.header_none (source : Source) (cursor : Cursor) : source.header cursor none = source.spaced cursor :=
  rfl

namespace Grammar

namespace C

def recordKinds : List String :=
  ["struct_specifier", "union_specifier", "enum_specifier", "class_specifier"]

def cut? (cursor : Cursor) : Option Cursor :=
  if cursor.kind = "function_definition" then
    (cursor.field? "body").map fun body => (cursor.childOfKind? "field_initializer_list").getD body
  else if ("namespace_definition" :: recordKinds).contains cursor.kind then cursor.field? "body"
  else none

def trail (cursor : Cursor) : String :=
  if cursor.kind = "enumerator" then ","
  else if recordKinds.contains cursor.kind && (cursor.field? "body").isNone then ";"
  else ""

def assembled (source : Source) (cursor : Cursor) : String :=
  source.header cursor (cut? cursor) ++ trail cursor

theorem cut?_held {cursor stop : Cursor} (found : cut? cursor = some stop) : cursor.Holds stop := by
  rw [cut?] at found
  split at found
  · obtain ⟨body, labelled, rfl⟩ := Option.map_eq_some_iff.mp found
    cases initializers : cursor.childOfKind? "field_initializer_list" with
    | none => exact .field? labelled
    | some list => exact .childOfKind? initializers
  · split at found
    · exact .field? found
    · cases found

theorem assembled_of_plain {source : Source} {cursor : Cursor} (uncut : cut? cursor = none) (bare : trail cursor = "") :
    assembled source cursor = source.spaced cursor := by
  rw [assembled, uncut, bare, String.append_empty, Source.header_none]

theorem asWritten_shows {source : Source} {cursor : Cursor} (kind : Kind) (uncut : cut? cursor = none)
    (bare : trail cursor = "") : (asWritten source cursor kind).Shows (assembled source cursor) :=
  source.declare_shows cursor _ kind none (by rw [assembled_of_plain uncut bare])

theorem record_shows (source : Source) {cursor : Cursor} (kind : Kind) (isRecord : cursor.kind ∈ recordKinds) :
    (record source cursor kind).Shows (assembled source cursor) := by
  have notFunction : cursor.kind ≠ "function_definition" := fun is => absurd (is ▸ isRecord) (by decide)
  have notEnumerator : cursor.kind ≠ "enumerator" := fun is => absurd (is ▸ isRecord) (by decide)
  have cut : cut? cursor = cursor.field? "body" := by
    rw [cut?, if_neg notFunction, if_pos (List.contains_iff_mem.mpr (List.mem_cons_of_mem _ isRecord))]
  refine source.declare_shows cursor _ kind _ (congrArg some ?_)
  rw [assembled, cut, trail, if_neg notEnumerator, List.contains_iff_mem.mpr isRecord]
  cases cursor.field? "body" with
  | none => rfl
  | some body => exact (String.append_empty ..).symm

theorem functionDefinition_shows {source : Source} {cursor : Cursor} (kind : Kind)
    (is : cursor.kind = "function_definition") :
    (functionDefinition source cursor kind).Shows (assembled source cursor) := by
  have bare : trail cursor = "" := by simp [trail, is, recordKinds]
  rw [functionDefinition]
  split
  · rename_i missing
    exact asWritten_shows kind (by simp [cut?, is, missing]) bare
  · rename_i body found
    refine source.declare_shows cursor _ kind none (congrArg some ?_)
    rw [assembled, bare, String.append_empty]
    simp [cut?, is, found]

theorem enumerator_shows {source : Source} {cursor : Cursor} (is : cursor.kind = "enumerator") :
    (enumerator source cursor).Shows (assembled source cursor) := by
  refine source.declare_shows cursor _ .enumConstant none (congrArg some ?_)
  have uncut : cut? cursor = none := by simp [cut?, is, recordKinds]
  rw [assembled, uncut, trail, if_pos is]
  rfl

theorem line_shows (source : Source) {cursor : Cursor} (kind : Kind)
    (is : cursor.kind ∈ lineKinds ++ Cpp.lineKinds) :
    (asWritten source cursor kind).Shows (assembled source cursor) := by
  have plain : ∀ name ∈ lineKinds ++ Cpp.lineKinds, name ≠ "function_definition" ∧ name ≠ "enumerator" ∧
      ("namespace_definition" :: recordKinds).contains name = false ∧ recordKinds.contains name = false := by decide
  obtain ⟨notFunction, notEnumerator, noBlock, noRecord⟩ := plain _ is
  refine asWritten_shows kind ?_ ?_
  · rw [cut?, if_neg notFunction, noBlock]
    rfl
  · rw [trail, if_neg notEnumerator, noRecord]
    rfl

theorem declarations_show (source : Source) (cursor : Cursor) (kind : Kind) :
    ∀ finding ∈ declarations source cursor kind, finding.Shows (assembled source cursor) := by
  intro finding member
  cases built_of_mem member with
  | line is => exact line_shows source kind (List.mem_append_left _ is)
  | function is => exact functionDefinition_shows kind is
  | record is => exact record_shows source kind ((by decide : ∀ name ∈ specifiers, name ∈ recordKinds) _ is)
  | enumerator is => exact enumerator_shows is

end C

namespace Cpp

theorem declarations_show (source : Source) {cursor : Cursor} (kind : Kind)
    (isOther : cursor.kind ≠ "template_declaration") :
    ∀ finding ∈ declarations source cursor kind, finding.Shows (C.assembled source cursor) := by
  intro finding member
  cases built_of_mem member with
  | nameSpace is =>
      refine source.declare_shows cursor _ .nameSpace _ (congrArg some ?_)
      simp [C.assembled, C.cut?, C.trail, C.recordKinds, is]
  | record is => exact C.record_shows source kind (by rw [is]; decide)
  | template is => exact absurd is isOther
  | line is => exact C.line_shows source kind (List.mem_append_right _ is)
  | shared _ member => exact C.declarations_show source cursor kind finding member

end Cpp

namespace Swift

def cut? (cursor : Cursor) : Option Cursor :=
  match cursor.kind with
  | "property_declaration" => cursor.childOfKinds? ["=", "computed_property", "willset_didset_block"]
  | "class_declaration" | "protocol_declaration" | "function_declaration" | "protocol_function_declaration"
  | "init_declaration" | "deinit_declaration" | "subscript_declaration" => cursor.childOfKinds? blockKinds
  | _ => none

def assembled (source : Source) (cursor : Cursor) : String :=
  source.header cursor (cut? cursor)

theorem cut?_held {cursor stop : Cursor} (found : cut? cursor = some stop) : cursor.Holds stop := by
  rw [cut?] at found
  split at found <;> first | exact .childOfKinds? found | cases found

end Swift

end Grammar

namespace Language

open Grammar

def trail : Language → Cursor → String
  | swift => fun _ => ""
  | _ => C.trail

def assembled : Language → Source → Cursor → String
  | swift => Swift.assembled
  | cpp => fun source cursor => C.assembled source (Cpp.subject cursor)
  | _ => C.assembled

end Language

-- The headers of templates, and behind them that of what they hold.
structure Quotation (tree : Node) where
  templates : List (Excerpt tree)
  areTemplates : ∀ template ∈ templates, template.cursor.kind = "template_declaration"
  header : Excerpt tree

namespace Quotation

variable {tree : Node} {source : Source}

def text (language : Language) (source : Source) (quotation : Quotation tree) : String :=
  quotation.templates.foldr (fun template rest => template.text source ++ " " ++ rest)
    (quotation.header.text source ++ language.trail quotation.header.cursor)

def alone (header : Excerpt tree) : Quotation tree :=
  ⟨[], List.forall_mem_nil _, header⟩

def under (template : Excerpt tree) (isTemplate : template.cursor.kind = "template_declaration")
    (quotation : Quotation tree) : Quotation tree :=
  ⟨template :: quotation.templates, List.forall_mem_cons.mpr ⟨isTemplate, quotation.areTemplates⟩, quotation.header⟩

theorem text_under (language : Language) (template : Excerpt tree)
    (isTemplate : template.cursor.kind = "template_declaration") (quotation : Quotation tree) :
    (quotation.under template isTemplate).text language source =
      template.text source ++ " " ++ quotation.text language source :=
  rfl

end Quotation

namespace Grammar

variable {tree : Node} {source : Source} {cursor : Cursor} {finding : Finding}

theorem quoted_alone (language : Language) {cut : Option Cursor} (folds : source.spacing = .folded)
    (ordered : tree.nested) (within : (Cursor.root tree).Holds cursor)
    (held : ∀ stop, cut = some stop → cursor.Holds stop)
    (same : finding.declaration.signature = source.header cursor cut ++ language.trail cursor) :
    ∃ quotation : Quotation tree, quotation.templates = [] ∧
      finding.declaration.signature = quotation.text language source := by
  obtain ⟨header, rfl, text⟩ := Excerpt.of_header folds ordered within held
  refine ⟨.alone header, rfl, ?_⟩
  rw [same, ← text]
  rfl

theorem Cpp.quoted {kind : Kind} (folds : source.spacing = .folded) (ordered : tree.nested)
    (within : (Cursor.root tree).Holds cursor) (made : finding ∈ declarations source cursor kind)
    (filled : C.assembled source (subject cursor) ≠ "") :
    ∃ quotation : Quotation tree, finding.declaration.signature = quotation.text .cpp source := by
  induction cursor using subject.induct generalizing finding with
  | case1 cursor isTemplate missing =>
      rw [declarations_of_template isTemplate, missing] at made
      cases made
  | case2 cursor isTemplate target found ih =>
      rw [declarations_of_template isTemplate, found] at made
      rw [subject_of_template isTemplate found] at filled
      obtain ⟨inner, among, rfl⟩ := List.mem_map.mp made
      have held := holds_of_templateSubject? found
      obtain ⟨quotation, same⟩ := ih (within.trans held) among filled
      -- The template leads with its own header, cut before what it holds.
      obtain ⟨template, rfl, text⟩ := Excerpt.of_header folds ordered within
        fun stop (is : some target = some stop) => Option.some.inj is ▸ held
      refine ⟨quotation.under template isTemplate, ?_⟩
      rw [Quotation.text_under, text, ← same]
      rfl
  | case3 cursor isOther =>
      rw [subject_of_other isOther] at filled
      have same := declarations_show source kind isOther finding made filled
      obtain ⟨quotation, _, quoted⟩ := quoted_alone .cpp folds ordered within (fun _ => C.cut?_held) same
      exact ⟨quotation, quoted⟩

end Grammar

namespace Symbol

mutual
theorem among_of_mem_preorder {depth : Nat} {entry : Nat × Declaration} (symbol : Symbol)
    (member : entry ∈ symbol.preorder depth) : ∃ other, Among [symbol] other ∧ other.toDeclaration = entry.2 := by
  cases symbol with
  | mk declaration children =>
      rw [preorder] at member
      rcases List.mem_cons.mp member with rfl | later
      · exact ⟨_, .here List.mem_cons_self, rfl⟩
      · obtain ⟨other, among, same⟩ := among_of_mem_preorderAll children later
        exact ⟨other, .inside List.mem_cons_self among, same⟩
theorem among_of_mem_preorderAll {depth : Nat} {entry : Nat × Declaration} (symbols : List Symbol)
    (member : entry ∈ preorderAll depth symbols) : ∃ other, Among symbols other ∧ other.toDeclaration = entry.2 := by
  cases symbols with
  | nil => cases member
  | cons symbol rest =>
      rw [preorderAll] at member
      rcases List.mem_append.mp member with first | later
      · obtain ⟨other, among, same⟩ := among_of_mem_preorder symbol first
        exact ⟨other, among.mono fun _ is => List.mem_singleton.mp is ▸ List.mem_cons_self, same⟩
      · obtain ⟨other, among, same⟩ := among_of_mem_preorderAll rest later
        exact ⟨other, among.mono fun _ => List.mem_cons_of_mem _, same⟩
end

end Symbol

namespace Layout

theorem lineFeed_not_mem_numeral (n : Nat) : '\n' ∉ (Text.numeral n).toList := by
  intro member
  rw [Text.numeral, String.toList_ofList] at member
  exact absurd (Text.isDigit_of_mem_digits member) (by decide)

theorem lineFeed_not_mem_lineRemark (language : Language) (options : Options) (line : UInt32) :
    '\n' ∉ (lineRemark language.style options line).toList := by
  have marker : '\n' ∉ language.style.marker.toList := by cases language <;> decide
  rw [lineRemark]
  split
  · simp [marker, lineFeed_not_mem_numeral]
  · simp

theorem lineFeed_not_mem_opening (language : Language) (body : Body) :
    '\n' ∉ (opening language.style body).toList := by
  cases language <;> cases body <;> decide

theorem lineFeed_not_mem_indentation (language : Language) (depth : Nat) :
    '\n' ∉ (indentation language.style.unit depth).toList := by
  have unit : '\n' ∉ language.style.unit.toList := by cases language <;> decide
  rw [indentation, String.toList_join]
  intro member
  obtain ⟨part, among, inside⟩ := List.mem_flatMap.mp member
  rw [List.eq_of_mem_replicate among] at inside
  exact unit inside

end Layout

namespace Document

end Document

end CodeOutline
