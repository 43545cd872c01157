import CodeOutline.Grammar.C

set_option autoImplicit false

namespace CodeOutline.Grammar

namespace Cpp

open C (hasFunctionDeclarator)

def templateSubject? (cursor : Cursor) : Option Cursor :=
  (cursor.namedChildren.filter fun child =>
    child.kind != "template_parameter_list" && !child.node.extra).getLast?

theorem size_of_templateSubject? {cursor target : Cursor} (found : templateSubject? cursor = some target) :
    target.size < cursor.size :=
  Cursor.size_of_namedChild (List.mem_filter.mp (List.mem_of_getLast? found)).1

def isClassMember (cursor : Cursor) : Bool :=
  match cursor.parent? with
  | none => false
  | some parent =>
      if parent.kind = "template_declaration" then parent.isUnder "field_declaration_list"
      else parent.kind == "field_declaration_list"

def role (source : Source) (cursor : Cursor) : Role :=
  match cursor.kind with
  | "namespace_definition" => .declares .nameSpace
  | "class_specifier" => .declares .classType
  | "template_declaration" =>
      match _ : templateSubject? cursor with
      | some target => role source target
      | none => .skip
  | "alias_declaration" => .declares .typeAlias
  | "using_declaration" | "namespace_alias_definition" => .declares .importLine
  | "function_definition" =>
      if isClassMember cursor then .declares .method else C.role source cursor
  | "declaration" | "field_declaration" =>
      if isClassMember cursor && hasFunctionDeclarator cursor then .declares .method else C.role source cursor
  | "access_specifier" | "friend_declaration" | "template_parameter_list" => .skip
  | _ => C.role source cursor
termination_by cursor.size
decreasing_by exact size_of_templateSubject? ‹_›

theorem role_of_template {source : Source} {cursor : Cursor} (isTemplate : cursor.kind = "template_declaration") :
    role source cursor = ((templateSubject? cursor).map (role source)).getD .skip := by
  rw [role]
  simp only [isTemplate]
  split <;> simp_all

def nameSpace (source : Source) (cursor : Cursor) : Finding :=
  let body := cursor.field? "body"
  ⟨source.declare cursor (source.nameAt cursor) .nameSpace { signature := some (source.header cursor body) }, body⟩

-- The template's comments serve if the declaration has none.
def underTemplate (source : Source) (template target : Cursor) (finding : Finding) : Finding :=
  let declaration := finding.declaration
  { finding with
    declaration :=
      { declaration with
        signature := source.header template (some target) ++ " " ++ declaration.signature
        startLine := source.line template.start
        startColumn := (source.column template.start).toUInt32
        documentation := declaration.documentation.or (source.documentation? template) } }

def declarations (source : Source) (cursor : Cursor) (kind : Kind) : List Finding :=
  match cursor.kind with
  | "namespace_definition" => [nameSpace source cursor]
  | "class_specifier" => [C.record source cursor kind]
  | "template_declaration" =>
      match _ : templateSubject? cursor with
      | none => []
      | some target => (declarations source target kind).map (underTemplate source cursor target)
  | "alias_declaration" | "using_declaration" | "namespace_alias_definition" => [C.asWritten source cursor kind]
  | _ => C.declarations source cursor kind
termination_by cursor.size
decreasing_by exact size_of_templateSubject? ‹_›

theorem declarations_of_template {source : Source} {cursor : Cursor} {kind : Kind}
    (isTemplate : cursor.kind = "template_declaration") :
    declarations source cursor kind =
      ((templateSubject? cursor).map fun target =>
        (declarations source target kind).map (underTemplate source cursor target)).getD [] := by
  rw [declarations]
  simp only [isTemplate]
  split <;> simp_all

def findings (source : Source) (cursor : Cursor) (kind : Kind) (_ : Nat) : List Finding :=
  declarations source cursor kind

def lineKinds : List String :=
  ["alias_declaration", "using_declaration", "namespace_alias_definition"]

def declaringKinds : List String :=
  lineKinds ++ ["namespace_definition", "class_specifier", "template_declaration"]

-- All other nodes declare what they declare in C.
inductive Form (cursor : Cursor) : Prop where
  | nameSpace (is : cursor.kind = "namespace_definition")
  | record (is : cursor.kind = "class_specifier")
  | template (is : cursor.kind = "template_declaration")
  | line (is : cursor.kind ∈ lineKinds)
  | shared (no : cursor.kind ∉ declaringKinds)

theorem form (cursor : Cursor) : Form cursor := by
  by_cases nameSpace : cursor.kind = "namespace_definition"
  · exact .nameSpace nameSpace
  by_cases record : cursor.kind = "class_specifier"
  · exact .record record
  by_cases template : cursor.kind = "template_declaration"
  · exact .template template
  by_cases line : cursor.kind ∈ lineKinds
  · exact .line line
  exact .shared (by simp [declaringKinds, *])

theorem declarations_of_line {source : Source} {cursor : Cursor} {kind : Kind} (is : cursor.kind ∈ lineKinds) :
    declarations source cursor kind = [C.asWritten source cursor kind] := by
  simp only [lineKinds, List.mem_cons, List.not_mem_nil, or_false] at is
  rw [declarations]
  rcases is with is | is | is <;> simp only [is]

theorem declarations_of_other {source : Source} {cursor : Cursor} {kind : Kind} (no : cursor.kind ∉ declaringKinds) :
    declarations source cursor kind = C.declarations source cursor kind := by
  simp only [declaringKinds, lineKinds, List.mem_append, List.mem_cons, List.not_mem_nil, or_false, not_or] at no
  rw [declarations]
  simp [no]

inductive Built (source : Source) (kind : Kind) : Cursor → Finding → Prop where
  | nameSpace {cursor : Cursor} (is : cursor.kind = "namespace_definition") :
      Built source kind cursor (nameSpace source cursor)
  | record {cursor : Cursor} (is : cursor.kind = "class_specifier") :
      Built source kind cursor (C.record source cursor kind)
  | template {cursor target : Cursor} {finding : Finding} (is : cursor.kind = "template_declaration")
      (found : templateSubject? cursor = some target) (built : Built source kind target finding) :
      Built source kind cursor (underTemplate source cursor target finding)
  | line {cursor : Cursor} (is : cursor.kind ∈ lineKinds) : Built source kind cursor (C.asWritten source cursor kind)
  | shared {cursor : Cursor} {finding : Finding} (no : cursor.kind ∉ declaringKinds)
      (member : finding ∈ C.declarations source cursor kind) : Built source kind cursor finding

theorem built_of_mem {source : Source} {cursor : Cursor} {kind : Kind} {finding : Finding}
    (member : finding ∈ declarations source cursor kind) : Built source kind cursor finding := by
  cases form cursor with
  | nameSpace is =>
      simp only [declarations, is] at member
      exact List.mem_singleton.mp member ▸ .nameSpace is
  | record is =>
      simp only [declarations, is] at member
      exact List.mem_singleton.mp member ▸ .record is
  | template is =>
      rw [declarations_of_template is] at member
      cases found : templateSubject? cursor with
      | none => simp [found] at member
      | some target =>
          rw [found] at member
          obtain ⟨inner, within, rfl⟩ := List.mem_map.mp member
          exact .template is found (built_of_mem within)
  | line is =>
      rw [declarations_of_line is] at member
      exact List.mem_singleton.mp member ▸ .line is
  | shared no =>
      rw [declarations_of_other no] at member
      exact .shared no member
termination_by cursor.size
decreasing_by exact size_of_templateSubject? found

theorem Built.size_of_members {source : Source} {cursor members : Cursor} {kind : Kind} {finding : Finding}
    (built : Built source kind cursor finding) (inside : finding.members = some members) :
    members.size < cursor.size := by
  induction built with
  | nameSpace | record => exact Cursor.size_of_field? inside
  | template _ found _ smaller => exact Nat.lt_trans (smaller inside) (size_of_templateSubject? found)
  | line => cases inside
  | shared _ member => exact C.members_of_declarations source _ kind _ member members inside

theorem members_smaller (source : Source) (cursor : Cursor) (kind : Kind) (depth : Nat) :
    MembersSmaller (findings source cursor kind depth) cursor.size :=
  fun _ member _ inside => (built_of_mem member).size_of_members inside

end Cpp

def cpp : Grammar :=
  ⟨Cpp.role, Cpp.findings, Cpp.members_smaller⟩

end CodeOutline.Grammar
