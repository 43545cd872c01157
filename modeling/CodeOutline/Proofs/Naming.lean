import CodeOutline.Document
import CodeOutline.Proofs.Arrangement

set_option autoImplicit false

namespace CodeOutline

def placeholders : List String :=
  ["import", "export", "default", "init", "deinit", "subscript"]

inductive Named (source : Source) (cursor : Cursor) : String → Prop where
  | empty : Named source cursor ""
  | placeholder {name : String} (listed : name ∈ placeholders) : Named source cursor name
  | text {node : Cursor} (inside : cursor.Holds node) : Named source cursor (source.text node)
  | spaced {node : Cursor} (inside : cursor.Holds node) : Named source cursor (source.spaced node)

namespace Named

variable {source : Source} {cursor : Cursor}

theorem below {inner : Cursor} {name : String} (named : Named source inner name) (inside : cursor.Holds inner) :
    Named source cursor name := by
  cases named with
  | empty => exact .empty
  | placeholder listed => exact .placeholder listed
  | text deeper => exact .text (inside.trans deeper)
  | spaced deeper => exact .spaced (inside.trans deeper)

theorem textOr {node : Option Cursor} {other : String} (inside : ∀ target, node = some target → cursor.Holds target)
    (fallback : Named source cursor other) : Named source cursor ((node.map source.text).getD other) := by
  cases node with
  | none => exact fallback
  | some target => exact .text (inside target rfl)

theorem fieldOr (label : String) {other : String} (fallback : Named source cursor other) :
    Named source cursor ((source.fieldText? cursor label).getD other) :=
  textOr (fun _ found => .field? found) fallback

theorem nameAt (source : Source) (cursor : Cursor) : Named source cursor (source.nameAt cursor) :=
  fieldOr "name" .empty

theorem self (source : Source) (cursor : Cursor) : Named source cursor (source.spaced cursor) :=
  .spaced (.here cursor)

end Named

namespace Grammar

def AllNamed (source : Source) (cursor : Cursor) (findings : List Finding) : Prop :=
  ∀ finding ∈ findings, Named source cursor finding.declaration.name

namespace AllNamed

variable {source : Source} {cursor : Cursor}

theorem nil : AllNamed source cursor [] :=
  List.forall_mem_nil _

theorem single {finding : Finding} (named : Named source cursor finding.declaration.name) :
    AllNamed source cursor [finding] :=
  List.forall_mem_singleton.mpr named

end AllNamed

namespace C

theorem nameInside_named (source : Source) (declarator : Cursor) :
    Named source declarator (nameInside source declarator) := by
  fun_induction nameInside source declarator with
  | case1 declarator _ => exact .text (.here declarator)
  | case2 => exact .empty
  | case3 declarator _ inner found ih => exact ih.below (holds_of_inner? found)

theorem declaredName_named (source : Source) (cursor : Cursor) : Named source cursor (declaredName source cursor) := by
  rw [declaredName]
  split
  · exact .empty
  · rename_i declarator found
    exact (nameInside_named source declarator).below (.field? found)

theorem asWritten_named (source : Source) (cursor : Cursor) (kind : Kind) :
    Named source cursor (asWritten source cursor kind).declaration.name := by
  simp only [asWritten, Source.leaf, Source.declare]
  split
  · rename_i name found
    obtain ⟨node, inside, rfl⟩ := Option.map_eq_some_iff.mp found
    exact .text (.field? inside)
  · split
    · exact .self source cursor
    · exact declaredName_named source cursor

theorem functionDefinition_named (source : Source) (cursor : Cursor) (kind : Kind) :
    Named source cursor (functionDefinition source cursor kind).declaration.name := by
  rw [functionDefinition]
  split
  · exact asWritten_named source cursor kind
  · exact declaredName_named source cursor

theorem declarations_named (source : Source) (cursor : Cursor) (kind : Kind) :
    AllNamed source cursor (declarations source cursor kind) := by
  intro finding member
  cases built_of_mem member with
  | line => exact asWritten_named source cursor kind
  | function => exact functionDefinition_named source cursor kind
  | record | enumerator => exact .nameAt source cursor

end C

namespace Cpp

theorem Built.named {source : Source} {kind : Kind} {cursor : Cursor} {finding : Finding}
    (built : Built source kind cursor finding) : Named source cursor finding.declaration.name := by
  induction built with
  | nameSpace | record => exact .nameAt source _
  -- A template keeps the name of what it holds.
  | template _ found _ named => exact named.below (.namedChild (List.mem_filter.mp (List.mem_of_getLast? found)).1)
  | line => exact C.asWritten_named source _ kind
  | shared _ member => exact C.declarations_named source _ kind _ member

theorem declarations_named (source : Source) (cursor : Cursor) (kind : Kind) :
    AllNamed source cursor (declarations source cursor kind) :=
  fun _ member => (built_of_mem member).named

end Cpp

theorem Java.findings_named (source : Source) (cursor : Cursor) (kind : Kind) (depth : Nat) :
    AllNamed source cursor (findings source cursor kind depth) := by
  intro finding member
  cases built_of_mem member with
  | path => exact .textOr (fun _ found => .childOfKinds? found) .empty
  | field _ among =>
      obtain ⟨declarator, within, rfl⟩ := List.mem_map.mp among
      exact (Named.nameAt source declarator).below (.child (List.mem_filter.mp within).1)
  | type | method | constructor | enumConstant => exact .nameAt source cursor

theorem Python.findings_named (source : Source) (cursor : Cursor) (kind : Kind) (depth : Nat) :
    AllNamed source cursor (findings source cursor kind depth) := by
  unfold findings
  split
  · exact .single (.placeholder (show "import" ∈ placeholders by decide))
  · exact .single (.nameAt source cursor)
  · exact .single (.nameAt source cursor)
  · exact .nil

namespace Go

-- The specifications of a group are named like the declaration they stand in, each from its own subtree.
theorem specFindings_named {source : Source} {cursor : Cursor} {grouped : Bool} {specs : List Cursor}
    {finding : Cursor → Cursor → Option String → Finding} (inside : ∀ spec ∈ specs, cursor.Holds spec)
    (each : ∀ spec place documentation, Named source spec (finding spec place documentation).declaration.name) :
    AllNamed source cursor (specFindings source cursor grouped specs finding) := by
  intro other member
  obtain ⟨pair, within, rfl⟩ := List.mem_map.mp member
  exact (each pair.1 _ pair.2).below (inside pair.1 (spec_of_documented within))

theorem typeDeclaration_named (source : Source) (cursor : Cursor) :
    AllNamed source cursor (typeDeclaration source cursor) := by
  rw [typeDeclaration]
  refine specFindings_named (fun spec member => .namedChild (List.mem_filter.mp member).1) ?_
  intro spec place documentation
  split
  · exact .nameAt source spec
  · exact .nameAt source spec

theorem valueSpec_named (source : Source) (kind : Kind) (spec place : Cursor) (documentation : Option String) :
    Named source spec (valueSpec source kind spec place documentation).declaration.name := by
  change Named source spec (((spec.labelled "name").map source.text).head?.getD "")
  rw [List.head?_map]
  exact .textOr (fun name found => .child (List.mem_filter.mp (List.mem_of_head? found)).1) .empty

theorem valueDeclaration_named (source : Source) (cursor : Cursor) (kind : Kind) :
    AllNamed source cursor (valueDeclaration source cursor kind) := by
  rw [valueDeclaration]
  refine specFindings_named (fun spec member => ?_) (valueSpec_named source kind)
  obtain ⟨child, among, within⟩ := List.mem_flatMap.mp member
  exact (Cursor.Holds.namedChild among).trans (holds_of_valueSpecsOf within)

theorem structField_named (source : Source) (cursor : Cursor) :
    Named source cursor (structField source cursor).declaration.name := by
  refine Named.textOr (fun named found => ?_) .empty
  rcases Option.or_eq_some_iff.mp found with first | ⟨_, type⟩
  · exact .child (List.mem_filter.mp (List.mem_of_head? first)).1
  · exact .field? type

theorem findings_named (source : Source) (cursor : Cursor) (kind : Kind) (depth : Nat) :
    AllNamed source cursor (findings source cursor kind depth) := by
  intro finding member
  cases built_of_mem member with
  | package => exact .textOr (fun _ found => .childOfKind? found) .empty
  | imports => exact .placeholder (show "import" ∈ placeholders by decide)
  | function | method => exact .nameAt source cursor
  | type _ among => exact typeDeclaration_named source cursor finding among
  | value _ among => exact valueDeclaration_named source cursor kind finding among
  | field => exact structField_named source cursor
  | interface => exact .fieldOr "name" (.self source cursor)

end Go

namespace JavaScript

theorem asWritten_named (source : Source) (cursor : Cursor) {kind : Kind} (listed : kind.name ∈ placeholders) :
    Named source cursor (asWritten source cursor kind).declaration.name :=
  .fieldOr "source" (.placeholder listed)

theorem exportedValue_named {source : Source} {cursor value : Cursor} (inside : cursor.Holds value) :
    Named source cursor (exportedValue source cursor value).declaration.name :=
  (Named.fieldOr "name" (.placeholder (by decide))).below inside

theorem field_named (source : Source) (cursor : Cursor) :
    Named source cursor (field source cursor).declaration.name := by
  refine Named.textOr (fun named found => ?_) .empty
  rcases Option.or_eq_some_iff.mp found with property | ⟨_, name⟩
  · exact .field? property
  · exact .field? name

theorem declaredVariables_named (source : Source) (cursor : Cursor) (statement : Option Cursor) :
    AllNamed source cursor (declaredVariables source cursor statement) := by
  rw [declaredVariables]
  split
  · exact .single (asWritten_named source cursor (by decide))
  · intro finding member
    obtain ⟨declarator, within, made⟩ := List.mem_filterMap.mp member
    refine Named.below ?_ (.childrenOfKind within)
    rcases declarator?_cases made with ⟨_, _, rfl⟩ | ⟨_, _, _, _, _, rfl⟩
    · exact .nameAt source declarator
    · exact .nameAt source declarator

theorem Built.named {source : Source} {cursor : Cursor} {statement : Option Cursor} {finding : Finding}
    (built : Built source cursor statement finding) : Named source cursor finding.declaration.name := by
  induction built with
  | imports | exportLine => exact asWritten_named source _ (by decide)
  | exported _ found _ named => exact named.below (.field? found)
  | exportedValue _ found => exact exportedValue_named (.field? found)
  | function | classDeclaration | method => exact .nameAt source _
  | field => exact field_named source _
  | held _ among => exact declaredVariables_named source _ _ _ among

theorem declarations_named (source : Source) (cursor : Cursor) (statement : Option Cursor) :
    AllNamed source cursor (declarations source cursor statement) :=
  fun _ member => (built_of_mem member).named

end JavaScript

namespace TypeScript

theorem own?_named {source : Source} {cursor : Cursor} {statement : Option Cursor} {finding : Finding}
    (made : own? source cursor statement = some finding) : Named source cursor finding.declaration.name := by
  cases built_of_own? made with
  | method | property => exact .fieldOr "name" (.self source cursor)
  | field => exact JavaScript.field_named source cursor
  | enumMember => exact .fieldOr "name" (.text (.here cursor))
  | interface | typeAlias | enum | nameSpace | classDeclaration | function => exact .nameAt source cursor

theorem findings_named (source : Source) (cursor : Cursor) (kind : Kind) (depth : Nat) :
    AllNamed source cursor (findings source cursor kind depth) := by
  rw [findings]
  split
  · rename_i finding own
    split at own
    · obtain ⟨declaration, found, made⟩ := Option.bind_eq_some_iff.mp own
      exact .single ((own?_named made).below (.field? found))
    · exact .single (own?_named own)
  · exact JavaScript.declarations_named source cursor none

end TypeScript

namespace Swift

def UnnamedEntry (cursor : Cursor) : Prop :=
  cursor.kind = "enum_entry" ∧ cursor.field? "name" = none

theorem enumEntry_of_unnamed {source : Source} {cursor : Cursor} (unnamed : cursor.field? "name" = none) :
    (enumEntry source cursor).declaration.name = Text.trim (Text.trimStartCopies "case" (source.spaced cursor)) := by
  change (source.fieldText? cursor "name").getD _ = _
  rw [Source.fieldText?, unnamed]
  rfl

theorem findings_of_unnamed {source : Source} {cursor : Cursor} (unnamed : UnnamedEntry cursor) (kind : Kind)
    (depth : Nat) : ∀ finding ∈ findings source cursor kind depth,
      finding.declaration.name = Text.trim (Text.trimStartCopies "case" (source.spaced cursor)) := by
  simp only [findings, unnamed.1]
  exact List.forall_mem_singleton.mpr (enumEntry_of_unnamed unnamed.2)

theorem specialName_named (source : Source) (cursor : Cursor) (kind : Kind) :
    Named source cursor (specialName kind) := by
  refine .placeholder ?_
  cases kind <;> decide

theorem findings_named {source : Source} {cursor : Cursor} (named : ¬ UnnamedEntry cursor) (kind : Kind) (depth : Nat) :
    AllNamed source cursor (findings source cursor kind depth) := by
  intro finding member
  cases built_of_mem member with
  | line => exact .fieldOr "name" (.self source cursor)
  | special => exact specialName_named source cursor kind
  | enumEntry is =>
      obtain ⟨name, found⟩ := Option.ne_none_iff_exists'.mp fun missing => named ⟨is, missing⟩
      change Named source cursor ((source.fieldText? cursor "name").getD _)
      rw [Source.fieldText?, found]
      exact .text (.field? found)
  | type | function | property | typeAlias => exact .nameAt source cursor

end Swift

def UnnamedCase (language : Language) (cursor : Cursor) : Prop :=
  language = .swift ∧ Swift.UnnamedEntry cursor

theorem findings_named_of_language {language : Language} {source : Source} {cursor : Cursor}
    (named : ¬ UnnamedCase language cursor) (kind : Kind) (depth : Nat) :
    AllNamed source cursor (language.grammar.findings source cursor kind depth) := by
  cases language with
  | go => exact Go.findings_named source cursor kind depth
  | python => exact Python.findings_named source cursor kind depth
  | java => exact Java.findings_named source cursor kind depth
  | javaScript => exact JavaScript.declarations_named source cursor none
  | typeScript | tsx => exact TypeScript.findings_named source cursor kind depth
  | swift => exact Swift.findings_named (fun unnamed => named ⟨rfl, unnamed⟩) kind depth
  | c => exact C.declarations_named source cursor kind
  | cpp => exact Cpp.declarations_named source cursor kind

end Grammar

namespace Document

/-- Only a case of a Swift enum without a name is named by its own text after the keyword. -/
theorem names_come_from_source {tag : String} {language : Language} (supported : Language.ofTag? tag = some language)
    (parsed content : ByteArray) (tree : Node) :
    ∃ document, extract tag parsed content tree = .ok document ∧
      ∀ symbol, Symbol.Among document.symbols symbol →
        ∃ level cursor finding, (Cursor.root tree).Holds cursor ∧
          language.grammar.Finds (source language parsed content) level cursor finding ∧
          symbol = language.grammar.complete (source language parsed content) language.visibility level finding ∧
          (¬ Grammar.UnnamedCase language cursor → Named (source language parsed content) cursor symbol.name) ∧
          (Grammar.UnnamedCase language cursor →
            symbol.name = Text.trim (Text.trimStartCopies "case" ((source language parsed content).spaced cursor))) := by
  refine ⟨_, extract_of_tag supported parsed content tree, fun symbol among => ?_⟩
  obtain ⟨level, cursor, finding, inside, ⟨kind, role, made⟩, rfl⟩ :=
    Grammar.finding_of_among (Grammar.membersHeld language) among
  refine ⟨level, cursor, finding, inside, ⟨kind, role, made⟩, rfl, fun named => ?_, fun unnamed => ?_⟩
  · exact Grammar.findings_named_of_language named kind level finding made
  · obtain ⟨rfl, entry⟩ := unnamed
    exact Grammar.Swift.findings_of_unnamed entry kind level finding made

def enumText : ByteArray :=
  "import A\nenum E \x7b\n  case  b\n  init() \x7b\x7d\n\x7d\n".toUTF8

def enumTree : Node :=
  .plain "source_file" none 0 42
    [.plain "import_declaration" none 0 8 [.plain "identifier" none 7 8 []],
      .plain "class_declaration" none 9 41
        [{ Node.plain "enum" (some "declaration_kind") 9 13 [] with named := false },
          .plain "type_identifier" (some "name") 14 15 [],
          .plain "enum_class_body" (some "body") 16 41
            [.plain "enum_entry" none 20 27 [],
              .plain "init_declaration" none 30 39 [.plain "function_body" (some "body") 37 39 []]]]]

theorem enumTree_names_come_from_source :
    (ofTree .swift enumText enumText enumTree).symbols.map
      (fun symbol => (symbol.name, symbol.children.map (·.name))) = [("import A", []), ("E", ["b", "init"])] ∧
    ∃ document, extract "swift" enumText enumText enumTree = .ok document ∧
      ∀ symbol, Symbol.Among document.symbols symbol →
        ∃ level cursor finding, (Cursor.root enumTree).Holds cursor ∧
          Language.swift.grammar.Finds (source .swift enumText enumText) level cursor finding ∧
          symbol = Language.swift.grammar.complete (source .swift enumText enumText) .everything level finding ∧
          (¬ Grammar.UnnamedCase .swift cursor → Named (source .swift enumText enumText) cursor symbol.name) ∧
          (Grammar.UnnamedCase .swift cursor →
            symbol.name = Text.trim (Text.trimStartCopies "case" ((source .swift enumText enumText).spaced cursor))) := by
  have supported : Language.ofTag? "swift" = some .swift := by decide
  exact ⟨by decide +kernel, names_come_from_source supported enumText enumText enumTree⟩

end Document

end CodeOutline
