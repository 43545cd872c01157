import CodeOutline.Proofs.Pruning
import CodeOutline.Proofs.Visits

set_option autoImplicit false

namespace CodeOutline

namespace Grammar.Python

def isPrivate (source : Source) (definition : Cursor) : Bool :=
  Text.startsWith (source.nameAt definition) "_"

def definitionKinds : List String :=
  ["function_definition", "class_definition"]

-- The way from one place of the walk to another, each with its depth: through nodes that are entered, and
-- through the bodies of `classes`, the outermost first, whatever their names.
inductive Leads (source : Source) : Nat × Cursor → List Cursor → Nat × Cursor → Prop where
  | here (place : Nat × Cursor) : Leads source place [] place
  | enter {depth : Nat} {parent child : Cursor} {classes : List Cursor} {last : Nat × Cursor}
      (member : child ∈ parent.namedChildren) (role : python.role source child = .enter)
      (rest : Leads source (depth, child) classes last) : Leads source (depth, parent) classes last
  | body {depth : Nat} {parent child body : Cursor} {classes : List Cursor} {last : Nat × Cursor}
      (member : child ∈ parent.namedChildren) (isClass : child.kind = "class_definition")
      (found : child.field? "body" = some body) (rest : Leads source (depth + 1, body) classes last) :
      Leads source (depth, parent) (child :: classes) last

variable {source : Source}

theorem role_of_class {cursor : Cursor} (isClass : cursor.kind = "class_definition") :
    python.role source cursor = .declares .classType := by
  have code : cursor.isComment = false := (Cursor.isComment_of_kind isClass).trans (by decide)
  simp [python, role, code, isClass]

theorem shown_of_class {depth : Nat} {cursor : Cursor} {finding : Finding} :
    finding ∈ python.shownFindings source .hideUnderscore depth cursor .classType ↔
      isPrivate source cursor = false ∧ finding = classDefinition source cursor := by
  have visible : Visibility.hideUnderscore.shows .classType (source.nameAt cursor) = !isPrivate source cursor := rfl
  change finding ∈ [classDefinition source cursor].filter _ ↔ _
  rw [List.mem_filter, List.mem_singleton, and_comm]
  refine and_congr_left ?_
  rintro rfl
  rw [← Bool.not_eq_true', ← visible]
  rfl

theorem shown_of_definition {definition : Cursor} (isDefinition : definition.kind ∈ definitionKinds)
    (isPublic : isPrivate source definition = false) (depth : Nat) :
    ∃ kind finding, python.role source definition = .declares kind ∧
      finding ∈ python.shownFindings source .hideUnderscore depth definition kind ∧
      finding.declaration.name = source.nameAt definition := by
  rw [definitionKinds, List.mem_pair] at isDefinition
  rcases isDefinition with isFunction | isClass
  · have code : definition.isComment = false := (Cursor.isComment_of_kind isFunction).trans (by decide)
    refine ⟨.function, function source definition depth, by simp [python, role, code, isFunction], ?_, rfl⟩
    have visible : Visibility.hideUnderscore.shows (if 0 < depth then .method else .function)
        (source.nameAt definition) = !isPrivate source definition := by
      split <;> rfl
    exact List.mem_filter.mpr ⟨List.mem_singleton_self _, visible.trans (by rw [isPublic]; rfl)⟩
  · exact ⟨.classType, classDefinition source definition, role_of_class isClass, shown_of_class.mpr ⟨isPublic, rfl⟩, rfl⟩

namespace Leads

variable {first last : Nat × Cursor} {classes : List Cursor}

theorem holds (way : Leads source first classes last) : first.2.Holds last.2 := by
  induction way with
  | here place => exact .here place.2
  | enter member _ _ ih => exact (Cursor.Holds.namedChild member).trans ih
  | body member _ found _ ih => exact (Cursor.Holds.namedChild member).trans ((Cursor.Holds.field? found).trans ih)

theorem calls (way : Leads source first classes last) (visible : ∀ outer ∈ classes, isPrivate source outer = false) :
    python.Calls source .hideUnderscore first last := by
  induction way with
  | here => exact .refl
  | enter member role _ ih => exact .head (.enter member role) (ih visible)
  | body member isClass found _ ih =>
      obtain ⟨isPublic, others⟩ := List.forall_mem_cons.mp visible
      exact .head (.members member (role_of_class isClass) (shown_of_class.mpr ⟨isPublic, rfl⟩) found) (ih others)

-- The walk has no other way to the same place, and this one ends at the first private class.
theorem visible_of_calls (way : Leads source first classes last) {level : Nat}
    (calls : python.Calls source .hideUnderscore first (level, last.2)) :
    ∀ outer ∈ classes, isPrivate source outer = false := by
  have held : python.MembersHeld := membersHeld .python
  induction way with
  | here => exact List.forall_mem_nil _
  | enter member role rest ih =>
      rcases calls_through_child held calls member rest.holds with ⟨_, further⟩ | ⟨kind, _, _, declares, _⟩
      · exact ih further
      · rw [role] at declares
        cases declares
  | body member isClass found rest ih =>
      have inside := (Cursor.Holds.field? found).trans rest.holds
      rcases calls_through_child held calls member inside with
        ⟨entered, _⟩ | ⟨kind, finding, members, declares, shown, body, further⟩
      · rw [role_of_class isClass] at entered
        cases entered
      · rw [role_of_class isClass] at declares
        cases declares
        obtain ⟨isPublic, rfl⟩ := shown_of_class.mp shown
        cases found.symm.trans body
        exact List.forall_mem_cons.mpr ⟨isPublic, ih further⟩

end Leads

end Grammar.Python

namespace Document

open Grammar.Python (Leads definitionKinds isPrivate)

/-- A definition is shown if all classes on the way to it are public, and otherwise no symbol is read off it. -/
theorem definition_hidden_by_classes {tag : String} (supported : Language.ofTag? tag = some .python)
    (parsed content : ByteArray) {tree : Node} {classes : List Cursor} {depth : Nat} {parent definition : Cursor}
    (way : Leads (source .python parsed content) (0, .root tree) classes (depth, parent))
    (member : definition ∈ parent.namedChildren) (isDefinition : definition.kind ∈ definitionKinds)
    (isPublic : isPrivate (source .python parsed content) definition = false) :
    ∃ document, extract tag parsed content tree = .ok document ∧
      ((∀ outer ∈ classes, isPrivate (source .python parsed content) outer = false) →
        ∃ finding, Grammar.python.Finds (source .python parsed content) depth definition finding ∧
          finding.declaration.name = (source .python parsed content).nameAt definition ∧
          Symbol.Among document.symbols
            (Grammar.python.complete (source .python parsed content) .hideUnderscore depth finding)) ∧
      ((∃ outer ∈ classes, isPrivate (source .python parsed content) outer) →
        ∀ symbol, Symbol.Among document.symbols symbol →
          ∃ level cursor finding, cursor ≠ definition ∧
            Grammar.python.Finds (source .python parsed content) level cursor finding ∧
            symbol = Grammar.python.complete (source .python parsed content) .hideUnderscore level finding) := by
  refine ⟨_, extract_of_tag supported parsed content tree, fun visible => ?_, fun hidden symbol among => ?_⟩
  · obtain ⟨kind, finding, role, shown, name⟩ := Grammar.Python.shown_of_definition isDefinition isPublic depth
    refine ⟨finding, ⟨kind, role, (List.mem_filter.mp shown).1⟩, name, ?_⟩
    exact Grammar.among_of_call (way.calls visible) member role shown
  · obtain ⟨⟨level, place⟩, cursor, finding, calls, within, finds, same⟩ := Grammar.call_of_among among
    refine ⟨level, cursor, finding, fun is => ?_, finds, same⟩
    -- The walk would come to the definition from its parent, and so through the private class.
    obtain ⟨outer, listed, isPrivate⟩ := hidden
    subst is
    have one := Cursor.parent?_of_mem_placeAll (List.mem_filter.mp within).1
    have other := Cursor.parent?_of_mem_placeAll (List.mem_filter.mp member).1
    cases Option.some.inj (one.symm.trans other)
    have visible := way.visible_of_calls calls outer listed
    rw [isPrivate] at visible
    cases visible

theorem twoClasses_shows_public_method :
    ∃ classes parent definition,
      Leads (source .python twoClassesText twoClassesText) (0, .root twoClasses) classes (1, parent) ∧
      definition ∈ parent.namedChildren ∧ definition.kind ∈ definitionKinds ∧
      isPrivate (source .python twoClassesText twoClassesText) definition = false ∧
      (classes.map (source .python twoClassesText twoClassesText).nameAt = ["A"] ∧
        ∀ outer ∈ classes, isPrivate (source .python twoClassesText twoClassesText) outer = false) ∧
      ∃ document, extract "py" twoClassesText twoClassesText twoClasses = .ok document ∧
        ∃ finding, Grammar.python.Finds (source .python twoClassesText twoClassesText) 1 definition finding ∧
          finding.declaration.name = (source .python twoClassesText twoClassesText).nameAt definition ∧
          Symbol.Among document.symbols
            (Grammar.python.complete (source .python twoClassesText twoClassesText) .hideUnderscore 1 finding) := by
  have supported : Language.ofTag? "py" = some .python := by decide
  have way : Leads (source .python twoClassesText twoClassesText) (0, .root twoClasses) [_] (1, _) :=
    .body (List.mem_of_getElem? (i := 0) rfl) rfl rfl (.here _)
  refine ⟨_, _, _, way, List.mem_of_getElem? (i := 1) rfl, by decide, by decide +kernel,
    ⟨by decide +kernel, by decide +kernel⟩, ?_⟩
  obtain ⟨document, extracted, shown, _⟩ := definition_hidden_by_classes supported twoClassesText twoClassesText way
    (List.mem_of_getElem? (i := 1) rfl) (by decide) (by decide +kernel)
  exact ⟨document, extracted, shown (by decide +kernel)⟩

-- The method of the private class has a public name, but no symbol.
theorem twoClasses_hides_public_method :
    ∃ classes parent definition,
      Leads (source .python twoClassesText twoClassesText) (0, .root twoClasses) classes (1, parent) ∧
      definition ∈ parent.namedChildren ∧ definition.kind ∈ definitionKinds ∧
      (source .python twoClassesText twoClassesText).nameAt definition = "h" ∧
      isPrivate (source .python twoClassesText twoClassesText) definition = false ∧
      ¬ ∃ symbol, Symbol.Among (ofTree .python twoClassesText twoClassesText twoClasses).symbols symbol ∧
        symbol.name = "h" := by
  refine ⟨[_], _, _, .body (List.mem_of_getElem? (i := 1) rfl) rfl rfl (.here _), List.mem_of_getElem? (i := 0) rfl,
    by decide, by decide +kernel, by decide +kernel, ?_⟩
  have names : ∀ symbol ∈ (ofTree .python twoClassesText twoClassesText twoClasses).symbols,
      symbol.name ≠ "h" ∧ ∀ inner ∈ symbol.children, inner.name ≠ "h" ∧ inner.children.isEmpty := by
    decide +kernel
  rintro ⟨symbol, among, same⟩
  cases among with
  | here member => exact (names symbol member).1 same
  | inside member rest =>
      obtain ⟨_, inners⟩ := names _ member
      cases rest with
      | here within => exact (inners symbol within).1 same
      | inside within deeper =>
          rw [List.isEmpty_iff.mp (inners _ within).2] at deeper
          exact Symbol.not_among_nil deeper

end Document

end CodeOutline
