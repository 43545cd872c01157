import CodeOutline.Proofs.Arrangement

set_option autoImplicit false

namespace CodeOutline

namespace Grammar

def OneEach (nameOf : Cursor → String) (items : List Cursor) (findings : List Finding) : Prop :=
  findings.map (·.declaration.name) = items.map nameOf

def AtMostOneEach (nameOf : Cursor → String) (items : List Cursor) (findings : List Finding) : Prop :=
  (findings.map (·.declaration.name)).Sublist (items.map nameOf)

def Single (kind : Kind) (findings : List Finding) : Prop :=
  ∃ finding, findings = [finding] ∧ finding.declaration.kind = kind

namespace Single

variable {kind : Kind} {findings : List Finding}

theorem length (single : Single kind findings) : findings.length = 1 := by
  obtain ⟨finding, rfl, _⟩ := single
  rfl

theorem kinds (single : Single kind findings) : ∀ finding ∈ findings, finding.declaration.kind = kind := by
  obtain ⟨finding, rfl, same⟩ := single
  exact List.forall_mem_singleton.mpr same

theorem map (single : Single kind findings) {change : Finding → Finding}
    (keeps : ∀ finding, (change finding).declaration.kind = finding.declaration.kind) :
    Single kind (findings.map change) := by
  obtain ⟨finding, rfl, same⟩ := single
  exact ⟨change finding, rfl, (keeps finding).trans same⟩

end Single

namespace C

theorem kind_of_functionDefinition (source : Source) (cursor : Cursor) (kind : Kind) :
    (functionDefinition source cursor kind).declaration.kind = kind := by
  rw [functionDefinition]
  split <;> rfl

theorem declarations_of_function (source : Source) {cursor : Cursor} (kind : Kind)
    (isFunction : cursor.kind ∈ ["function_definition", "declaration", "field_declaration"]) :
    Single kind (declarations source cursor kind) := by
  simp only [List.mem_cons, List.not_mem_nil, or_false] at isFunction
  rcases isFunction with is | is | is <;> simp only [declarations, is]
  · exact ⟨_, rfl, kind_of_functionDefinition source cursor kind⟩
  · exact ⟨_, rfl, rfl⟩
  · exact ⟨_, rfl, rfl⟩

theorem declarations_of_role {source : Source} {cursor : Cursor} {kind : Kind}
    (declared : role source cursor = .declares kind) : Single kind (declarations source cursor kind) := by
  by_cases isFunction : cursor.kind = "function_definition"
  · exact declarations_of_function source kind (isFunction ▸ List.mem_cons_self)
  · rw [role] at declared
    split at declared
    · cases declared
    · split at declared <;> cases declared
      all_goals
        rename_i is
        first
        | exact absurd is isFunction
        | simp only [declarations, is]
          exact ⟨_, rfl, rfl⟩

end C

namespace Cpp

def ownKinds : List String :=
  ["namespace_definition", "class_specifier", "template_declaration", "alias_declaration", "using_declaration",
    "namespace_alias_definition", "access_specifier", "friend_declaration", "template_parameter_list"]

def writesFunction (cursor : Cursor) : Bool :=
  cursor.kind == "function_definition" ||
    (cursor.kind == "declaration" || cursor.kind == "field_declaration") && C.hasFunctionDeclarator cursor

theorem kind_of_writesFunction {cursor : Cursor} (writes : writesFunction cursor) :
    cursor.kind ∈ ["function_definition", "declaration", "field_declaration"] := by
  simp only [writesFunction, Bool.or_eq_true, Bool.and_eq_true, beq_iff_eq] at writes
  simp only [List.mem_cons, List.not_mem_nil, or_false]
  exact writes.imp_right And.left

theorem role_of_shared (source : Source) {cursor : Cursor} (shared : cursor.kind ∉ ownKinds) :
    role source cursor =
      if isClassMember cursor && writesFunction cursor then .declares .method else C.role source cursor := by
  simp only [ownKinds, List.mem_cons, List.not_mem_nil, or_false, not_or] at shared
  rw [role]
  by_cases isFunction : cursor.kind ∈ ["function_definition", "declaration", "field_declaration"]
  · simp only [List.mem_cons, List.not_mem_nil, or_false] at isFunction
    rcases isFunction with is | is | is <;> simp [writesFunction, is]
  · have other : writesFunction cursor = false := by
      by_contra writes
      exact isFunction (kind_of_writesFunction (by simpa using writes))
    simp only [List.mem_cons, List.not_mem_nil, or_false, not_or] at isFunction
    simp [shared, isFunction, other]

theorem declarations_of_shared (source : Source) {cursor : Cursor} (kind : Kind) (shared : cursor.kind ∉ ownKinds) :
    declarations source cursor kind = C.declarations source cursor kind := by
  have own : ∀ name ∈ declaringKinds, name ∈ ownKinds := by decide
  exact declarations_of_other fun declaring => shared (own _ declaring)

theorem declarations_of_own {source : Source} {cursor : Cursor} {kind : Kind}
    (declared : role source cursor = .declares kind) (own : cursor.kind ∈ ownKinds)
    (noTemplate : cursor.kind ≠ "template_declaration") : Single kind (declarations source cursor kind) := by
  simp only [ownKinds, List.mem_cons, List.not_mem_nil, or_false] at own
  rw [role] at declared
  rcases own with is | is | is | is | is | is | is | is | is
  all_goals
    first
    | exact absurd is noTemplate
    | simp only [is] at declared
      cases declared
  all_goals
    rw [declarations]
    simp only [is]
    exact ⟨_, rfl, rfl⟩

-- Both recursions through a template end at the same subject.
theorem declarations_of_role {source : Source} {cursor : Cursor} {kind : Kind}
    (declared : role source cursor = .declares kind) : Single kind (declarations source cursor kind) := by
  by_cases isTemplate : cursor.kind = "template_declaration"
  · rw [role_of_template isTemplate] at declared
    rw [declarations_of_template isTemplate]
    cases found : templateSubject? cursor with
    | none => simp [found] at declared
    | some target =>
        rw [found] at declared
        have atTarget : Single kind (declarations source target kind) := declarations_of_role declared
        exact atTarget.map fun _ => rfl
  · by_cases own : cursor.kind ∈ ownKinds
    · exact declarations_of_own declared own isTemplate
    · rw [role_of_shared source own] at declared
      rw [declarations_of_shared source kind own]
      split at declared
      · rename_i isMethod
        cases declared
        rw [Bool.and_eq_true] at isMethod
        exact C.declarations_of_function source .method (kind_of_writesFunction isMethod.2)
      · exact C.declarations_of_role declared
termination_by cursor.size
decreasing_by exact size_of_templateSubject? found

end Cpp

namespace Java

def Tally (source : Source) (cursor : Cursor) (findings : List Finding) : Prop :=
  if cursor.kind ∈ ["field_declaration", "constant_declaration"] then
    OneEach source.nameAt (cursor.labelled "declarator") findings
  else findings.length = 1

theorem kind_of_pathLine {source : Source} {cursor : Cursor} {kind : Kind} (declared : role source cursor = .declares kind)
    (isPath : cursor.kind ∈ ["package_declaration", "import_declaration"]) :
    (pathLine source cursor).declaration.kind = kind := by
  rw [role] at declared
  split at declared
  · cases declared
  · simp only [List.mem_cons, List.not_mem_nil, or_false] at isPath
    rcases isPath with is | is <;> simp only [is] at declared <;> cases declared
    · exact if_pos is
    · exact if_neg (by rw [is]; decide)

theorem kind_of_fields {source : Source} {cursor : Cursor} {kind : Kind} (declared : role source cursor = .declares kind)
    (isField : cursor.kind ∈ fieldKinds) : kind = .field := by
  rw [role] at declared
  split at declared
  · cases declared
  · simp only [fieldKinds, List.mem_cons, List.not_mem_nil, or_false] at isField
    rcases isField with is | is <;> simp only [is] at declared <;> cases declared <;> rfl

theorem findings_of_role {source : Source} {cursor : Cursor} {kind : Kind} (depth : Nat)
    (declared : role source cursor = .declares kind) :
    Tally source cursor (findings source cursor kind depth) ∧
      ∀ finding ∈ findings source cursor kind depth, finding.declaration.kind = kind := by
  by_cases isField : cursor.kind ∈ ["field_declaration", "constant_declaration"]
  · have kinds : kind = .field := kind_of_fields declared isField
    rw [Tally, if_pos isField, findings_of_fields isField, OneEach, fields, List.map_map]
    refine ⟨rfl, fun finding member => ?_⟩
    obtain ⟨declarator, _, rfl⟩ := List.mem_map.mp member
    exact kinds.symm
  · rw [Tally, if_neg isField]
    by_cases isPath : cursor.kind ∈ pathKinds
    · rw [findings_of_path isPath]
      exact ⟨rfl, List.forall_mem_singleton.mpr (kind_of_pathLine declared isPath)⟩
    · rw [role] at declared
      split at declared
      · cases declared
      · split at declared <;> cases declared
        all_goals
          rename_i is
          rw [is] at isField isPath
          first
          | exact absurd (by decide) isField
          | exact absurd (by decide) isPath
          | simp only [findings, is]
            exact ⟨rfl, List.forall_mem_singleton.mpr rfl⟩

end Java

namespace Go

def firstName (source : Source) (spec : Cursor) : String :=
  ((spec.labelled "name").head?.map source.text).getD ""

def isTypeSpec (cursor : Cursor) : Bool :=
  cursor.kind == "type_spec" || cursor.kind == "type_alias"

def isValueSpec (cursor : Cursor) : Bool :=
  cursor.kind == "const_spec" || cursor.kind == "var_spec"

-- The specifications of a `var` group may stand in a list of their own.
def Tally (source : Source) (cursor : Cursor) (findings : List Finding) : Prop :=
  if cursor.kind = "type_declaration" then OneEach source.nameAt (cursor.namedChildren.filter isTypeSpec) findings
  else if cursor.kind ∈ ["const_declaration", "var_declaration"] then
    OneEach (firstName source)
      (cursor.namedChildren.flatMap fun child =>
        if child.kind = "var_spec_list" then child.childrenOfKind "var_spec" else [child].filter isValueSpec)
      findings
  else findings.length = 1

theorem specFindings_oneEach (source : Source) (cursor : Cursor) (grouped : Bool) (specs : List Cursor)
    {finding : Cursor → Cursor → Option String → Finding} {nameOf : Cursor → String}
    (named : ∀ spec place documentation, (finding spec place documentation).declaration.name = nameOf spec) :
    OneEach nameOf specs (specFindings source cursor grouped specs finding) := by
  rw [OneEach, specFindings, List.map_map]
  conv => rhs; rw [← specs_of_documented source (if grouped then source.documentation? cursor else none) specs]
  rw [List.map_map]
  exact List.map_congr_left fun pair _ => named ..

theorem typeDeclaration_oneEach (source : Source) (cursor : Cursor) :
    OneEach source.nameAt (cursor.namedChildren.filter isTypeSpec) (typeDeclaration source cursor) := by
  rw [typeDeclaration]
  refine specFindings_oneEach source cursor _ _ fun spec place documentation => ?_
  split <;> rfl

theorem valueSpecs_eq (cursor : Cursor) :
    valueSpecs cursor = cursor.namedChildren.flatMap fun child =>
      if child.kind = "var_spec_list" then child.childrenOfKind "var_spec" else [child].filter isValueSpec := by
  rw [valueSpecs]
  congr 1
  funext child
  by_cases isList : child.kind = "var_spec_list"
  · simp [valueSpecsOf, isList]
  · simp [valueSpecsOf, isList, isValueSpec, List.filter_cons]

theorem valueDeclaration_oneEach (source : Source) (cursor : Cursor) (kind : Kind) :
    OneEach (firstName source) (valueSpecs cursor) (valueDeclaration source cursor kind) := by
  refine specFindings_oneEach source cursor _ (valueSpecs cursor) fun spec place documentation => ?_
  simp only [valueSpec, Source.leaf, Source.declare, firstName, List.head?_map]

theorem findings_of_role {source : Source} {cursor : Cursor} {kind : Kind} (depth : Nat)
    (declared : role source cursor = .declares kind) :
    Tally source cursor (findings source cursor kind depth) ∧
      (cursor.kind ≠ "type_declaration" →
        ∀ finding ∈ findings source cursor kind depth, finding.declaration.kind = kind) := by
  by_cases isGroup : cursor.kind = "type_declaration"
  · simp only [Tally, findings, isGroup, if_true]
    exact ⟨typeDeclaration_oneEach source cursor, fun other => absurd rfl other⟩
  by_cases isValue : cursor.kind ∈ ["const_declaration", "var_declaration"]
  · rw [Tally, if_neg isGroup, if_pos isValue, findings_of_valueDeclaration isValue, ← valueSpecs_eq]
    refine ⟨valueDeclaration_oneEach source cursor kind, fun _ finding member => ?_⟩
    obtain ⟨pair, _, rfl⟩ := List.mem_map.mp member
    rfl
  rw [Tally, if_neg isGroup, if_neg isValue]
  rw [role] at declared
  split at declared
  · cases declared
  · split at declared <;> cases declared
    all_goals
      rename_i is
      rw [is] at isGroup isValue
      first
      | exact absurd rfl isGroup
      | exact absurd (by decide) isValue
      | simp only [findings, is]
        exact ⟨rfl, fun _ => List.forall_mem_singleton.mpr rfl⟩

end Go

theorem Python.length_findings {source : Source} {cursor : Cursor} {kind : Kind} (depth : Nat)
    (declared : role source cursor = .declares kind) : (findings source cursor kind depth).length = 1 := by
  rw [role] at declared
  split at declared
  · cases declared
  · split at declared <;> cases declared
    all_goals rfl

theorem Swift.length_findings {source : Source} {cursor : Cursor} {kind : Kind} (depth : Nat)
    (declared : role source cursor = .declares kind) : (findings source cursor kind depth).length = 1 := by
  rw [role] at declared
  split at declared
  · cases declared
  · split at declared <;> cases declared
    all_goals
      rename_i is
      simp only [findings, is]
      rfl

namespace JavaScript

-- Variables with a `require` among them are shown as written.
def Tally (source : Source) (cursor : Cursor) (findings : List Finding) : Prop :=
  if cursor.kind ∈ ["lexical_declaration", "variable_declaration"] then
    if (cursor.childrenOfKind "variable_declarator").any (requires source) then
      findings = [asWritten source cursor .importLine]
    else AtMostOneEach source.nameAt (cursor.childrenOfKind "variable_declarator") findings
  else if cursor.kind = "export_statement" then findings ≠ []
  else findings.length = 1

theorem name_of_declarator? {source : Source} {cursor declarator : Cursor} {statement : Option Cursor} {keyword : String}
    {finding : Finding} (made : declarator? source cursor statement keyword declarator = some finding) :
    finding.declaration.name = source.nameAt declarator := by
  rcases declarator?_cases made with ⟨kind, details, rfl⟩ | ⟨value, details, _, _, _, rfl⟩
  · rfl
  · rfl

theorem names_of_filterMap {items : List Cursor} {make : Cursor → Option Finding} {nameOf : Cursor → String}
    (named : ∀ item finding, make item = some finding → finding.declaration.name = nameOf item) :
    AtMostOneEach nameOf items (items.filterMap make) := by
  rw [AtMostOneEach]
  induction items with
  | nil => exact .slnil
  | cons item rest ih =>
      cases made : make item with
      | none =>
          rw [List.filterMap_cons_none made]
          exact ih.cons _
      | some finding =>
          rw [List.filterMap_cons_some made, List.map_cons, List.map_cons, named item finding made]
          exact ih.cons_cons _

theorem declaredVariables_tally (source : Source) (cursor : Cursor) (statement : Option Cursor) :
    if (cursor.childrenOfKind "variable_declarator").any (requires source) then
      declaredVariables source cursor statement = [asWritten source cursor .importLine]
    else AtMostOneEach source.nameAt (cursor.childrenOfKind "variable_declarator")
      (declaredVariables source cursor statement) := by
  rw [declaredVariables]
  split
  · rfl
  · exact names_of_filterMap fun _ _ => name_of_declarator?

theorem declarations_of_export_ne_nil {source : Source} {cursor : Cursor} {statement : Option Cursor}
    (isExport : cursor.kind = "export_statement") : declarations source cursor statement ≠ [] := by
  rw [declarations_of_export isExport]
  split
  · split
    · exact List.cons_ne_nil _ _
    · rename_i found
      exact fun none => found (by rw [none]; rfl)
  · split <;> exact List.cons_ne_nil _ _

theorem declarations_of_role {source : Source} {cursor : Cursor} {kind : Kind}
    (declared : role source cursor = .declares kind) : Tally source cursor (declarations source cursor none) := by
  by_cases isVariables : cursor.kind ∈ ["lexical_declaration", "variable_declaration"]
  · rw [Tally, if_pos isVariables, declarations_of_declaredVariables isVariables]
    exact declaredVariables_tally source cursor none
  by_cases isExport : cursor.kind = "export_statement"
  · rw [Tally, if_neg isVariables, if_pos isExport]
    exact declarations_of_export_ne_nil isExport
  rw [Tally, if_neg isVariables, if_neg isExport]
  rw [role] at declared
  split at declared
  · cases declared
  · split at declared <;> cases declared
    all_goals
      rename_i is
      rw [is] at isVariables isExport
      first
      | exact absurd (by decide) isVariables
      | exact absurd rfl isExport
      | simp only [declarations, is, List.length_singleton]

end JavaScript

namespace TypeScript

open JavaScript (Tally)

-- Of these JavaScript shares the names only: in the body of an enum a bare name is a member.
def ownKinds : List String :=
  ["interface_declaration", "type_alias_declaration", "enum_declaration", "internal_module", "module",
    "abstract_class_declaration", "function_signature", "method_signature", "abstract_method_signature",
    "index_signature", "call_signature", "construct_signature", "property_signature", "public_field_definition",
    "enum_assignment", "type_annotation", "type_arguments", "type_parameters"]

theorem own?_of_shared (source : Source) {cursor : Cursor} (statement : Option Cursor)
    (shared : cursor.kind ∉ "property_identifier" :: ownKinds) : own? source cursor statement = none := by
  have own : ∀ name ∈ declaringKinds, name ∈ "property_identifier" :: ownKinds := by decide
  exact own?_of_other fun declaring => shared (own _ declaring)

theorem shared_of_role {source : Source} {cursor : Cursor} {kind : Kind}
    (declared : JavaScript.role source cursor = .declares kind) :
    cursor.kind ∉ "property_identifier" :: ownKinds := by
  rw [JavaScript.role] at declared
  split at declared
  · cases declared
  · split at declared <;> cases declared
    all_goals
      rename_i is
      rw [is]
      decide

theorem own?_of_role {source : Source} {cursor : Cursor} {kind : Kind} (declared : role source cursor = .declares kind)
    (different : role source cursor ≠ JavaScript.role source cursor) :
    (∃ finding, own? source cursor none = some finding) ∧
      cursor.kind ∉ ["lexical_declaration", "variable_declaration", "export_statement"] := by
  rw [role] at declared different
  split at declared
  all_goals
    first
    | rename_i is
      simp only [own?, is]
      exact ⟨⟨_, rfl⟩, by decide⟩
    | cases declared
    | simp at different

theorem findings_of_export_ne_nil {source : Source} {cursor : Cursor} (kind : Kind) (depth : Nat)
    (isExport : cursor.kind = "export_statement") : findings source cursor kind depth ≠ [] := by
  rw [findings]
  split
  · exact List.cons_ne_nil _ _
  · exact JavaScript.declarations_of_export_ne_nil isExport

theorem findings_of_role {source : Source} {cursor : Cursor} {kind : Kind} (depth : Nat)
    (declared : role source cursor = .declares kind) : Tally source cursor (findings source cursor kind depth) := by
  by_cases same : role source cursor = JavaScript.role source cursor
  · rw [same] at declared
    by_cases isExport : cursor.kind = "export_statement"
    · rw [Tally, if_neg (by rw [isExport]; decide), if_pos isExport]
      exact findings_of_export_ne_nil kind depth isExport
    · simp only [findings, if_neg isExport, own?_of_shared source none (shared_of_role declared)]
      exact JavaScript.declarations_of_role declared
  · obtain ⟨⟨finding, made⟩, other⟩ := own?_of_role declared same
    simp only [List.mem_cons, List.not_mem_nil, or_false, not_or] at other
    have alone : findings source cursor kind depth = [finding] := by
      simp only [findings, if_neg other.2.2, made]
    simp [Tally, alone, other]

end TypeScript

end Grammar

namespace Language

def Tally : Language → Source → Cursor → List Finding → Prop
  | .go => Grammar.Go.Tally
  | .java => Grammar.Java.Tally
  | .javaScript | .typeScript | .tsx => Grammar.JavaScript.Tally
  | .python | .swift | .c | .cpp => fun _ _ findings => findings.length = 1

def keepsKind : Language → Cursor → Bool
  | .java, _ | .c, _ | .cpp, _ => true
  | .go, cursor => cursor.kind != "type_declaration"
  | .python, _ | .javaScript, _ | .typeScript, _ | .tsx, _ | .swift, _ => false

/-- A node with a declaring role has the findings its form calls for, of the kind of the role where the language
keeps kinds. -/
theorem declaring_node_has_findings (language : Language) {source : Source} {cursor : Cursor} {kind : Kind} (depth : Nat)
    (declared : language.grammar.role source cursor = .declares kind) :
    language.Tally source cursor (language.grammar.findings source cursor kind depth) ∧
      (language.keepsKind cursor →
        ∀ finding ∈ language.grammar.findings source cursor kind depth, finding.declaration.kind = kind) := by
  have dropped : false = true → ∀ finding ∈ language.grammar.findings source cursor kind depth,
      finding.declaration.kind = kind := fun impossible => nomatch impossible
  cases language with
  | go =>
      obtain ⟨tally, kinds⟩ := Grammar.Go.findings_of_role depth declared
      exact ⟨tally, fun keeps => kinds (by simpa [keepsKind] using keeps)⟩
  | java =>
      obtain ⟨tally, kinds⟩ := Grammar.Java.findings_of_role depth declared
      exact ⟨tally, fun _ => kinds⟩
  | c =>
      have single : Grammar.Single kind (Grammar.C.declarations source cursor kind) :=
        Grammar.C.declarations_of_role declared
      exact ⟨single.length, fun _ => single.kinds⟩
  | cpp =>
      have single : Grammar.Single kind (Grammar.Cpp.declarations source cursor kind) :=
        Grammar.Cpp.declarations_of_role declared
      exact ⟨single.length, fun _ => single.kinds⟩
  | python => exact ⟨Grammar.Python.length_findings depth declared, dropped⟩
  | swift => exact ⟨Grammar.Swift.length_findings depth declared, dropped⟩
  | javaScript => exact ⟨Grammar.JavaScript.declarations_of_role declared, dropped⟩
  | typeScript | tsx => exact ⟨Grammar.TypeScript.findings_of_role depth declared, dropped⟩

def nestedTemplateText : ByteArray :=
  "template <class T> template <class U> void f() \x7b\x7d".toUTF8

def nestedTemplate : Node :=
  .plain "template_declaration" none 0 49
    [.plain "template_parameter_list" (some "parameters") 9 18 [],
      .plain "template_declaration" none 19 49
        [.plain "template_parameter_list" (some "parameters") 28 37 [],
          .plain "function_definition" none 38 49
            [.plain "primitive_type" (some "type") 38 42 [],
              .plain "function_declarator" (some "declarator") 43 46 [.plain "identifier" (some "declarator") 43 44 []],
              .plain "compound_statement" (some "body") 47 49 []]]]

def nestedTemplateSource : Source :=
  .ofBytes .folded nestedTemplateText nestedTemplateText

theorem nestedTemplate_has_findings :
    Language.cpp.grammar.role nestedTemplateSource (.root nestedTemplate) = .declares .function ∧
    Language.cpp.Tally nestedTemplateSource (.root nestedTemplate)
      (Language.cpp.grammar.findings nestedTemplateSource (.root nestedTemplate) .function 0) ∧
    (Language.cpp.keepsKind (.root nestedTemplate) →
      ∀ finding ∈ Language.cpp.grammar.findings nestedTemplateSource (.root nestedTemplate) .function 0,
        finding.declaration.kind = .function) := by
  have declared : Language.cpp.grammar.role nestedTemplateSource (.root nestedTemplate) = .declares .function := by
    decide +kernel
  exact ⟨declared, declaring_node_has_findings .cpp 0 declared⟩

end Language

end CodeOutline
