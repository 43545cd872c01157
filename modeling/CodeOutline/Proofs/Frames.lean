import CodeOutline.Proofs.Arrangement
import CodeOutline.Proofs.Reading

set_option autoImplicit false

namespace CodeOutline

structure Frame where
  block : String
  labels : List String
  -- Kinds of which the first child counts, and kinds of which all children count.
  kinds : List String
  clauses : List String

namespace Frame

def lookedUp (frame : Frame) (cursor : Cursor) : List Cursor :=
  frame.labels.filterMap cursor.field? ++ frame.kinds.filterMap cursor.childOfKind? ++
    cursor.children.filter (frame.clauses.contains ·.kind)

def BlockLast (frame : Frame) (cursor : Cursor) : Prop :=
  ∀ block, cursor.field? frame.block = some block → ∀ part ∈ frame.lookedUp cursor, part.stop ≤ block.start

instance (frame : Frame) (cursor : Cursor) : Decidable (frame.BlockLast cursor) :=
  match found : cursor.field? frame.block with
  | none => .isTrue fun _ same => (Option.some_ne_none _ (same.symm.trans found)).elim
  | some block =>
      decidable_of_iff (∀ part ∈ frame.lookedUp cursor, part.stop ≤ block.start)
        ⟨fun before _ same => Option.some.inj (found.symm.trans same) ▸ before, fun last => last block found⟩

def limit (frame : Frame) (cursor : Cursor) : Nat :=
  ((cursor.field? frame.block).map (·.start)).getD cursor.stop

structure Kept (frame : Frame) (source : Source) (other : ByteArray) (cursor : Cursor) : Prop where
  label : ∀ label ∈ frame.labels, ∀ node, cursor.field? label = some node → source.Keeps other node
  kind : ∀ kind ∈ frame.kinds, ∀ node, cursor.childOfKind? kind = some node → source.Keeps other node
  clause : ∀ child ∈ cursor.children, child.kind ∈ frame.clauses → source.Keeps other child

variable {frame : Frame} {source : Source} {other : ByteArray} {cursor : Cursor}

theorem holds_of_lookedUp {part : Cursor} (member : part ∈ frame.lookedUp cursor) : cursor.Holds part := by
  simp only [lookedUp, List.mem_append, List.mem_filterMap, List.mem_filter] at member
  rcases member with (⟨label, _, found⟩ | ⟨kind, _, found⟩) | ⟨child, _⟩
  · exact .field? found
  · exact .childOfKind? found
  · exact .child child

theorem kept_of_agreesOn (nested : cursor.node.nested) (last : frame.BlockLast cursor)
    (agrees : source.AgreesOn other cursor.start (frame.limit cursor)) : frame.Kept source other cursor := by
  have keeps : ∀ part ∈ frame.lookedUp cursor, source.Keeps other part := by
    intro part member
    obtain ⟨lower, upper, nestedPart⟩ := (holds_of_lookedUp member).inside nested
    refine ⟨nestedPart, agrees.mono lower ?_⟩
    rw [limit]
    cases found : cursor.field? frame.block with
    | none => exact upper
    | some block => exact last block found part member
  simp only [lookedUp, List.mem_append, List.mem_filterMap, List.mem_filter, List.contains_iff_mem] at keeps
  exact ⟨fun label listed node found => keeps node (.inl (.inl ⟨label, listed, found⟩)),
    fun kind listed node found => keeps node (.inl (.inr ⟨kind, listed, found⟩)),
    fun child member listed => keeps child (.inr ⟨member, listed⟩)⟩

theorem headerStop_block (nested : cursor.node.nested) :
    Source.headerStop cursor (cursor.field? frame.block) = frame.limit cursor := by
  rw [limit]
  cases found : cursor.field? frame.block with
  | none => rfl
  | some block => exact if_pos ((Cursor.Holds.field? found).inside nested).1

theorem keeps_of_none (nested : cursor.node.nested) (agrees : source.AgreesOn other cursor.start (frame.limit cursor))
    (missing : cursor.field? frame.block = none) : source.Keeps other cursor := by
  simp only [limit, missing, Option.map_none, Option.getD_none] at agrees
  exact ⟨nested, agrees⟩

def block? (frame : Option Frame) (cursor : Cursor) : Option Cursor :=
  frame.bind fun frame => cursor.field? frame.block

def reach (frame : Option Frame) (cursor : Cursor) : Nat :=
  (frame.map (·.limit cursor)).getD cursor.stop

theorem reach_le (frame : Option Frame) (nested : cursor.node.nested) :
    cursor.start ≤ reach frame cursor ∧ reach frame cursor ≤ cursor.stop := by
  cases frame with
  | none => exact ⟨Node.start_le_stop cursor.node nested, Nat.le_refl _⟩
  | some frame =>
      change cursor.start ≤ frame.limit cursor ∧ frame.limit cursor ≤ cursor.stop
      rw [limit]
      cases found : cursor.field? frame.block with
      | none => exact ⟨Node.start_le_stop cursor.node nested, Nat.le_refl _⟩
      | some block =>
          obtain ⟨lower, upper, nestedBlock⟩ := (Cursor.Holds.field? found).inside nested
          exact ⟨lower, Nat.le_trans (Node.start_le_stop block.node nestedBlock) upper⟩

theorem Kept.field (kept : frame.Kept source other cursor) (label : String)
    (listed : label ∈ frame.labels := by decide) :
    ∀ node, cursor.field? label = some node → source.Keeps other node :=
  kept.label label listed

theorem Kept.first (kept : frame.Kept source other cursor) (kind : String)
    (listed : kind ∈ frame.kinds := by decide) :
    ∀ node, cursor.childOfKind? kind = some node → source.Keeps other node :=
  kept.kind kind listed

end Frame

-- The node whose text a finding leaves to others: the body it elides, or else the place of its members.
def Finding.hidden? (finding : Finding) (callable : Cursor) : Option Cursor :=
  if finding.declaration.body = .elided then callable.field? "body" else finding.members

structure Source.AgreesBeside (source : Source) (other : ByteArray) (cursor callable : Cursor)
    (findings : List Finding) : Prop where
  size : source.content.size = other.size
  bytes : ∀ offset, cursor.start ≤ offset → offset < cursor.stop →
    (∀ finding ∈ findings, ∀ hidden, finding.hidden? callable = some hidden →
      ¬ (hidden.start ≤ offset ∧ offset < hidden.stop)) →
    source.content.data[offset]? = other.data[offset]?

namespace Source.AgreesBeside

variable {source : Source} {other : ByteArray} {cursor callable : Cursor} {findings : List Finding}

theorem agreesOn (agrees : source.AgreesBeside other cursor callable findings) {start stop : Nat}
    (lower : cursor.start ≤ start) (upper : stop ≤ cursor.stop)
    (clear : ∀ finding ∈ findings, ∀ hidden, finding.hidden? callable = some hidden →
      stop ≤ hidden.start ∨ hidden.stop ≤ start) : source.AgreesOn other start stop := by
  refine ⟨agrees.size, fun offset after before => agrees.bytes offset (by omega) (by omega) ?_⟩
  intro finding member hidden found within
  have apart := clear finding member hidden found
  omega

theorem upTo (agrees : source.AgreesBeside other cursor callable findings) {frame : Option Frame}
    (hidden : ∀ finding ∈ findings, finding.hidden? callable = Frame.block? frame callable)
    (ends : Frame.reach frame callable ≤ cursor.stop) :
    source.AgreesOn other cursor.start (Frame.reach frame callable) := by
  refine agrees.agreesOn (Nat.le_refl _) ends fun finding member block found => .inl ?_
  rw [hidden finding member] at found
  cases frame with
  | none => cases found
  | some frame =>
      have under : callable.field? frame.block = some block := found
      simp [Frame.reach, Frame.limit, under]

end Source.AgreesBeside

namespace Grammar

variable {source : Source} {other : ByteArray} {cursor : Cursor}

namespace C

def functionFrame : Frame :=
  ⟨"body", ["declarator"], ["field_initializer_list"], []⟩

def recordFrame : Frame :=
  ⟨"body", ["name"], ["base_class_clause"], []⟩

def frame? : String → Option Frame
  | "function_definition" => some functionFrame
  | "struct_specifier" | "union_specifier" | "enum_specifier" => some recordFrame
  | _ => none

theorem frame?_of_line {kind : String} (is : kind ∈ lineKinds) : frame? kind = none := by
  simp only [lineKinds, List.mem_cons, List.not_mem_nil, or_false] at is
  rcases is with rfl | rfl | rfl | rfl | rfl | rfl <;> rfl

theorem frame?_of_record {kind : String} (is : kind ∈ specifiers) : frame? kind = some recordFrame := by
  simp only [specifiers, List.mem_cons, List.not_mem_nil, or_false] at is
  rcases is with rfl | rfl | rfl <;> rfl

theorem nameInside_atop {declarator : Cursor} (kept : source.Keeps other declarator) :
    nameInside (source.atop other) declarator = nameInside source declarator := by
  rw [nameInside_eq, nameInside_eq source, Source.text_atop kept]
  cases found : inner? declarator with
  | none => rfl
  | some inner =>
      have deeper := nameInside_atop (kept.holds (holds_of_inner? found))
      simp only [Option.map_some, Option.getD_some, deeper]
termination_by declarator.size
decreasing_by exact size_of_inner? found

theorem declaredName_atop (kept : ∀ node, cursor.field? "declarator" = some node → source.Keeps other node) :
    declaredName (source.atop other) cursor = declaredName source cursor := by
  rw [declaredName, declaredName]
  cases found : cursor.field? "declarator" with
  | none => rfl
  | some declarator => exact nameInside_atop (kept declarator found)

theorem asWritten_atop (kept : source.Keeps other cursor) (comments : source.KeepsComments other cursor) (kind : Kind) :
    asWritten (source.atop other) cursor kind = asWritten source cursor kind := by
  have field : ∀ label node, cursor.field? label = some node → source.Keeps other node :=
    fun _ _ found => kept.holds (.field? found)
  simp only [asWritten, Source.spaced_atop kept, Source.fieldText?_atop (field "name"),
    declaredName_atop (field "declarator"), Source.leaf_atop comments]

theorem functionDefinition_atop (nested : cursor.node.nested) (last : functionFrame.BlockLast cursor)
    (agrees : source.AgreesOn other cursor.start (functionFrame.limit cursor))
    (comments : source.KeepsComments other cursor) (kind : Kind) :
    functionDefinition (source.atop other) cursor kind = functionDefinition source cursor kind := by
  have kept := Frame.kept_of_agreesOn nested last agrees
  rw [functionDefinition, functionDefinition]
  cases found : cursor.field? "body" with
  | none => exact asWritten_atop (Frame.keeps_of_none nested agrees found) comments kind
  | some body =>
      have limit : functionFrame.limit cursor = body.start := by simp [Frame.limit, functionFrame, found]
      -- The header ends at the body, or at initializers that stand before it.
      have stops : ∀ stop, cursor.Holds stop → stop.start ≤ body.start →
          source.AgreesOn other cursor.start (Source.headerStop cursor (some stop)) := by
        intro stop inside early
        rw [Source.headerStop, if_pos (inside.inside nested).1]
        exact agrees.mono (Nat.le_refl _) (limit ▸ early)
      have header : source.AgreesOn other cursor.start
          (Source.headerStop cursor (some ((cursor.childOfKind? "field_initializer_list").getD body))) := by
        cases initializers : cursor.childOfKind? "field_initializer_list" with
        | none => exact stops body (.field? found) (Nat.le_refl _)
        | some list =>
            have inside := Cursor.Holds.childOfKind? initializers
            have width := Node.start_le_stop list.node (inside.inside nested).2.2
            have early : list.stop ≤ body.start :=
              last body found list (by simp [Frame.lookedUp, functionFrame, initializers])
            exact stops list inside (Nat.le_trans width early)
      simp only [declaredName_atop (kept.field "declarator"), Source.header_atop header,
        Source.leaf_atop comments]

theorem record_atop (nested : cursor.node.nested) (last : recordFrame.BlockLast cursor)
    (agrees : source.AgreesOn other cursor.start (recordFrame.limit cursor))
    (comments : source.KeepsComments other cursor) (kind : Kind) :
    record (source.atop other) cursor kind = record source cursor kind := by
  have kept := Frame.kept_of_agreesOn nested last agrees
  have bases : ((cursor.childOfKind? "base_class_clause").map fun clause =>
        Text.trim (Text.trimStartWhile (· == ':') ((source.atop other).spaced clause))) =
      (cursor.childOfKind? "base_class_clause").map fun clause =>
        Text.trim (Text.trimStartWhile (· == ':') (source.spaced clause)) := by
    cases found : cursor.childOfKind? "base_class_clause" with
    | none => simp only [Option.map_none]
    | some clause =>
        have text := Source.spaced_atop (kept.first "base_class_clause" (by decide) clause found)
        simp only [Option.map_some, text]
  have signature : (if (cursor.field? "body").isSome then (source.atop other).header cursor (cursor.field? "body")
        else (source.atop other).spaced cursor ++ ";") =
      if (cursor.field? "body").isSome then source.header cursor (cursor.field? "body")
        else source.spaced cursor ++ ";" := by
    cases found : cursor.field? "body" with
    | none =>
        have whole := Frame.keeps_of_none nested agrees found
        simp only [Option.isSome_none, Bool.false_eq_true, if_false, Source.spaced_atop whole]
    | some body =>
        rw [← Frame.headerStop_block nested, show recordFrame.block = "body" from rfl, found] at agrees
        simp only [Option.isSome_some, if_true, Source.header_atop agrees]
  simp only [record, bases, signature, Source.nameAt_atop (kept.field "name"), Source.declare_atop comments]

theorem declarations_atop (nested : cursor.node.nested)
    (last : ∀ frame, frame? cursor.kind = some frame → frame.BlockLast cursor)
    (agrees : source.AgreesOn other cursor.start (Frame.reach (frame? cursor.kind) cursor))
    (comments : source.KeepsComments other cursor) (kind : Kind) :
    declarations (source.atop other) cursor kind = declarations source cursor kind := by
  cases form cursor with
  | line is =>
      rw [frame?_of_line is] at agrees
      rw [declarations_of_line is, declarations_of_line is, asWritten_atop ⟨nested, agrees⟩ comments]
  | function is =>
      rw [is] at last agrees
      simp only [declarations, is, functionDefinition_atop nested (last _ rfl) agrees comments]
  | record is =>
      rw [frame?_of_record is] at last agrees
      rw [declarations_of_record is, declarations_of_record is, record_atop nested (last _ rfl) agrees comments]
  | enumerator is =>
      rw [is] at agrees
      have whole : source.Keeps other cursor := ⟨nested, agrees⟩
      have name := Source.nameAt_atop fun _ found => whole.holds (.field? found)
      simp only [declarations, is, enumerator, name, Source.spaced_atop whole, Source.leaf_atop comments]
  | other no => rw [declarations_of_other no, declarations_of_other no]

theorem hidden_of_record (source : Source) (cursor : Cursor) (kind : Kind) :
    (record source cursor kind).hidden? cursor = cursor.field? "body" := by
  cases found : cursor.field? "body" with
  | none => simp [record, Finding.hidden?, Source.declare, found]
  | some body => simp [record, Finding.hidden?, Source.declare, found]

theorem hidden_of_functionDefinition (source : Source) (cursor : Cursor) (kind : Kind) :
    (functionDefinition source cursor kind).hidden? cursor = cursor.field? "body" := by
  rw [functionDefinition]
  cases found : cursor.field? "body" with
  | none => rfl
  | some body => exact found

theorem hidden_of_declarations {source : Source} {cursor : Cursor} {kind : Kind} :
    ∀ finding ∈ declarations source cursor kind, finding.hidden? cursor = Frame.block? (frame? cursor.kind) cursor := by
  intro finding member
  cases built_of_mem member with
  | line is =>
      rw [frame?_of_line is]
      rfl
  | function is =>
      rw [is]
      exact hidden_of_functionDefinition source cursor kind
  | record is =>
      rw [frame?_of_record is]
      exact hidden_of_record source cursor kind
  | enumerator is =>
      rw [is]
      rfl

end C

namespace Cpp

def scopeFrame : Frame :=
  ⟨"body", ["name"], [], []⟩

def frame? : String → Option Frame
  | "namespace_definition" => some scopeFrame
  | "class_specifier" => some C.recordFrame
  | kind => C.frame? kind

def subject (cursor : Cursor) : Cursor :=
  if cursor.kind = "template_declaration" then
    match _ : templateSubject? cursor with
    | none => cursor
    | some target => subject target
  else cursor
termination_by cursor.size
decreasing_by exact size_of_templateSubject? ‹_›

theorem subject_of_template {target : Cursor} (isTemplate : cursor.kind = "template_declaration")
    (found : templateSubject? cursor = some target) : subject cursor = subject target := by
  rw [subject, if_pos isTemplate]
  split <;> simp_all

theorem subject_of_other (isOther : cursor.kind ≠ "template_declaration") : subject cursor = cursor := by
  rw [subject, if_neg isOther]

theorem holds_of_templateSubject? {target : Cursor} (found : templateSubject? cursor = some target) :
    cursor.Holds target :=
  .namedChild (List.mem_filter.mp (List.mem_of_getLast? found)).1

theorem holds_subject (cursor : Cursor) : cursor.Holds (subject cursor) := by
  fun_induction subject cursor with
  | case1 cursor _ _ => exact .here cursor
  | case2 cursor _ target found ih => exact (holds_of_templateSubject? found).trans ih
  | case3 cursor => exact .here cursor

theorem nameSpace_atop (nested : cursor.node.nested) (last : scopeFrame.BlockLast cursor)
    (agrees : source.AgreesOn other cursor.start (scopeFrame.limit cursor))
    (comments : source.KeepsComments other cursor) :
    nameSpace (source.atop other) cursor = nameSpace source cursor := by
  have kept := Frame.kept_of_agreesOn nested last agrees
  have header : source.AgreesOn other cursor.start (Source.headerStop cursor (cursor.field? "body")) := by
    rw [← Frame.headerStop_block nested] at agrees
    exact agrees
  simp only [nameSpace, Source.nameAt_atop (kept.field "name"), Source.header_atop header,
    Source.declare_atop comments]

theorem underTemplate_atop {template target : Cursor}
    (agrees : source.AgreesOn other template.start (Source.headerStop template (some target)))
    (comments : source.KeepsComments other template) (finding : Finding) :
    underTemplate (source.atop other) template target finding = underTemplate source template target finding := by
  rw [underTemplate, underTemplate, Source.header_atop agrees, Source.documentation?_atop comments]
  rfl

theorem frame?_of_other {kind : String} (no : kind ∉ declaringKinds) : frame? kind = C.frame? kind := by
  simp only [declaringKinds, List.mem_append, List.mem_cons, List.not_mem_nil, or_false, not_or] at no
  simp [frame?, no]

theorem frame?_of_line {kind : String} (is : kind ∈ lineKinds) : frame? kind = none := by
  simp only [lineKinds, List.mem_cons, List.not_mem_nil, or_false] at is
  rcases is with rfl | rfl | rfl <;> rfl

-- Comments between a template and its subject stand before the subject.
theorem comments_of_templateSubject? {target : Cursor} {stop : Nat} (nested : cursor.node.nested)
    (found : templateSubject? cursor = some target) (agrees : source.AgreesOn other cursor.start stop)
    (ends : target.start ≤ stop) : source.KeepsComments other target := by
  have member := (List.mem_filter.mp (List.mem_filter.mp (List.mem_of_getLast? found)).1).1
  intro comment earlier _
  obtain ⟨sibling, among, rfl, before⟩ := Cursor.sibling_of_before nested member earlier
  have lower := ((Cursor.Holds.child among).inside nested).1
  exact agrees.mono lower (Nat.le_trans before ends)

theorem declarations_of_other_atop (isOther : cursor.kind ≠ "template_declaration") (nested : cursor.node.nested)
    (last : ∀ frame, frame? cursor.kind = some frame → frame.BlockLast cursor)
    (agrees : source.AgreesOn other cursor.start (Frame.reach (frame? cursor.kind) cursor))
    (comments : source.KeepsComments other cursor) (kind : Kind) :
    declarations (source.atop other) cursor kind = declarations source cursor kind := by
  cases form cursor with
  | nameSpace is =>
      rw [is] at last agrees
      simp only [declarations, is, nameSpace_atop nested (last _ rfl) agrees comments]
  | record is =>
      rw [is] at last agrees
      simp only [declarations, is, C.record_atop nested (last _ rfl) agrees comments]
  | template is => exact absurd is isOther
  | line is =>
      rw [frame?_of_line is] at agrees
      rw [declarations_of_line is, declarations_of_line is, C.asWritten_atop ⟨nested, agrees⟩ comments]
  | shared no =>
      rw [frame?_of_other no] at last agrees
      rw [declarations_of_other no, declarations_of_other no]
      exact C.declarations_atop nested last agrees comments kind

theorem declarations_atop (nested : cursor.node.nested)
    (last : ∀ inner, cursor.Holds inner → ∀ frame, frame? inner.kind = some frame → frame.BlockLast inner)
    (agrees : source.AgreesOn other cursor.start (Frame.reach (frame? (subject cursor).kind) (subject cursor)))
    (comments : source.KeepsComments other cursor) (kind : Kind) :
    declarations (source.atop other) cursor kind = declarations source cursor kind := by
  induction cursor using subject.induct with
  | case1 cursor isTemplate none =>
      rw [declarations_of_template isTemplate, declarations_of_template isTemplate, none, Option.map_none,
        Option.map_none]
  | case2 cursor isTemplate target found ih =>
      rw [subject_of_template isTemplate found] at agrees
      have inside := holds_of_templateSubject? found
      obtain ⟨lower, _, nestedTarget⟩ := inside.inside nested
      obtain ⟨start, _, nestedSubject⟩ := (holds_subject target).inside nestedTarget
      have ends := Nat.le_trans start (Frame.reach_le (frame? (subject target).kind) nestedSubject).1
      have inner := ih nestedTarget (fun part holds => last part (inside.trans holds))
        (agrees.mono lower (Nat.le_refl _)) (comments_of_templateSubject? nested found agrees ends)
      have header : source.AgreesOn other cursor.start (Source.headerStop cursor (some target)) := by
        rw [Source.headerStop, if_pos lower]
        exact agrees.mono (Nat.le_refl _) ends
      rw [declarations_of_template isTemplate, declarations_of_template isTemplate, found, Option.map_some,
        Option.map_some, Option.getD_some, Option.getD_some, inner]
      exact List.map_congr_left fun finding _ => underTemplate_atop header comments finding
  | case3 cursor isOther =>
      rw [subject_of_other isOther] at agrees
      exact declarations_of_other_atop isOther nested (last cursor (.here cursor)) agrees comments kind

theorem hidden_of_other (source : Source) (isOther : cursor.kind ≠ "template_declaration") (kind : Kind) :
    ∀ finding ∈ declarations source cursor kind,
      finding.hidden? cursor = Frame.block? (frame? cursor.kind) cursor := by
  intro finding member
  cases built_of_mem member with
  | nameSpace is =>
      rw [is]
      rfl
  | record is =>
      rw [is]
      exact C.hidden_of_record source cursor kind
  | template is => exact absurd is isOther
  | line is =>
      rw [frame?_of_line is]
      rfl
  | shared no member =>
      rw [frame?_of_other no]
      exact C.hidden_of_declarations finding member

theorem hidden_of_declarations (source : Source) (cursor : Cursor) (kind : Kind) :
    ∀ finding ∈ declarations source cursor kind,
      finding.hidden? (subject cursor) = Frame.block? (frame? (subject cursor).kind) (subject cursor) := by
  induction cursor using subject.induct with
  | case1 cursor isTemplate none =>
      rw [declarations_of_template isTemplate, none]
      exact List.forall_mem_nil _
  | case2 cursor isTemplate target found ih =>
      rw [declarations_of_template isTemplate, subject_of_template isTemplate found, found]
      intro finding member
      obtain ⟨inner, within, rfl⟩ := List.mem_map.mp member
      exact ih inner within
  | case3 cursor isOther =>
      rw [subject_of_other isOther]
      exact hidden_of_other source isOther kind

end Cpp

namespace Java

def typeFrame : Frame :=
  ⟨"body", ["name", "type_parameters", "parameters"], ["modifiers"],
    ["superclass", "super_interfaces", "extends_interfaces", "permits"]⟩

def methodFrame : Frame :=
  ⟨"body", ["type_parameters", "type", "name", "parameters", "dimensions", "value"], ["modifiers", "throws"], []⟩

def constructorFrame : Frame :=
  ⟨"body", ["type_parameters", "name", "parameters"], ["modifiers", "throws"], []⟩

def frame? : String → Option Frame
  | "class_declaration" | "record_declaration" | "interface_declaration" | "annotation_type_declaration"
  | "enum_declaration" => some typeFrame
  | "method_declaration" | "annotation_type_element_declaration" => some methodFrame
  | "constructor_declaration" | "compact_constructor_declaration" => some constructorFrame
  | _ => none

end Java

namespace Go

def functionFrame : Frame :=
  ⟨"body", ["name", "type_parameters", "parameters", "result"], [], []⟩

def methodFrame : Frame :=
  ⟨"body", ["receiver", "name", "parameters", "result"], [], []⟩

def frame? : String → Option Frame
  | "function_declaration" => some functionFrame
  | "method_declaration" => some methodFrame
  | _ => none

def typeLabels : List String :=
  ["name", "type_parameters"]

def TypesApart (tree : Cursor) : Prop :=
  ∀ spec, tree.Holds spec → spec.kind = "type_spec" → ∀ type, spec.field? "type" = some type →
    ∀ label ∈ typeLabels, ∀ part, spec.field? label = some part → part.stop ≤ type.start ∨ type.stop ≤ part.start

theorem TypesApart.holds {tree inner : Cursor} (apart : TypesApart tree) (inside : tree.Holds inner) :
    TypesApart inner :=
  fun spec below => apart spec (inside.trans below)

def typeMembers? (spec : Cursor) : Option Cursor :=
  if spec.kind = "type_alias" then none else (typeForm (spec.field? "type")).2.2

theorem holds_of_typeMembers? {spec members : Cursor} (found : typeMembers? spec = some members) :
    spec.kind ≠ "type_alias" ∧ ∃ type, spec.field? "type" = some type ∧ type.Holds members := by
  rw [typeMembers?] at found
  split at found
  case isTrue => cases found
  case isFalse notAlias =>
      refine ⟨notAlias, ?_⟩
      cases typeFound : spec.field? "type" with
      | none => simp [typeForm, typeFound] at found
      | some type =>
          refine ⟨type, rfl, ?_⟩
          rw [typeFound] at found
          unfold typeForm at found
          dsimp only at found
          by_cases isStruct : type.kind = "struct_type"
          · rw [if_pos isStruct] at found
            exact .childOfKind? found
          · by_cases isInterface : type.kind = "interface_type"
            · rw [if_neg isStruct, if_pos isInterface] at found
              cases found
              exact .here _
            · rw [if_neg isStruct, if_neg isInterface] at found
              cases found

theorem child_of_typeSpecs {spec : Cursor} (member : spec ∈ typeSpecs cursor) : spec ∈ cursor.children :=
  (List.mem_filter.mp (List.mem_filter.mp member).1).1

theorem typeMembers?_inside {spec members : Cursor} (nested : cursor.node.nested) (member : spec ∈ typeSpecs cursor)
    (found : typeMembers? spec = some members) : spec.start ≤ members.start ∧ members.stop ≤ spec.stop := by
  obtain ⟨_, type, typeFound, below⟩ := holds_of_typeMembers? found
  obtain ⟨_, _, nestedSpec⟩ := (Cursor.Holds.child (child_of_typeSpecs member)).inside nested
  obtain ⟨lower, upper, _⟩ := ((Cursor.Holds.field? typeFound).trans below).inside nestedSpec
  exact ⟨lower, upper⟩

theorem typeFinding_of_mem {finding : Finding} (member : finding ∈ typeDeclaration source cursor) :
    ∃ spec ∈ typeSpecs cursor, finding.members = typeMembers? spec ∧ finding.declaration.body ≠ .elided := by
  obtain ⟨pair, within, rfl⟩ := List.mem_map.mp member
  refine ⟨pair.1, spec_of_documented within, ?_⟩
  dsimp only
  rw [typeMembers?]
  split
  · exact ⟨rfl, show Body.bare ≠ .elided by decide⟩
  · refine ⟨rfl, ?_⟩
    simp only [typeSpec, Source.declare, Option.getD_some]
    split <;> decide

section TypeGroup

variable (nested : cursor.node.nested)
variable (agrees : source.AgreesBeside other cursor cursor (typeDeclaration source cursor))

include nested agrees

end TypeGroup

theorem defaultBody_of_role {kind : Kind} (declared : role source cursor = .declares kind)
    (isValue : cursor.kind ∈ valueKinds) : kind.defaultBody = .bare := by
  rw [role] at declared
  split at declared
  · cases declared
  · simp only [valueKinds, List.mem_cons, List.not_mem_nil, or_false] at isValue
    rcases isValue with is | is
    · simp only [is, Role.declares.injEq] at declared
      rw [← declared]
      rfl
    · simp only [is, Role.declares.injEq] at declared
      rw [← declared]
      rfl

end Go

end Grammar

end CodeOutline
