import CodeOutline.Document
import CodeOutline.Proofs.Dispatch
import CodeOutline.Proofs.Positions

set_option autoImplicit false

namespace CodeOutline

structure Finding.StandsAt (source : Source) (place : Cursor) (finding : Finding) : Prop where
  spans : finding.declaration.Spans source place.start place.stop
  documentation : finding.declaration.documentation = source.documentation? place

theorem Source.declare_standsAt (source : Source) (place : Cursor) (name : String) (kind : Kind) {details : Details}
    (members : Option Cursor) (bare : details.documentation = none) :
    (⟨source.declare place name kind details, members⟩ : Finding).StandsAt source place := by
  refine ⟨Declaration.declare_spans .., ?_⟩
  rw [declare, bare]
  rfl

namespace Grammar

def exportedKinds : List String :=
  ["function_declaration", "generator_function_declaration", "class_declaration", "lexical_declaration",
    "variable_declaration", "interface_declaration", "type_alias_declaration", "enum_declaration",
    "internal_module", "module", "abstract_class_declaration", "function_signature"]

structure Exports (statement : Cursor) : Prop where
  kind : statement.kind = "export_statement"
  declaration : ∀ declaration, statement.field? "declaration" = some declaration → declaration.kind ∈ exportedKinds

namespace JavaScript

def importsModule (source : Source) (declaration : Cursor) : Bool :=
  ["lexical_declaration", "variable_declaration"].contains declaration.kind &&
    (declaration.childrenOfKind "variable_declarator").any (requires source)

variable {source : Source} {cursor statement declaration : Cursor} {finding : Finding}

theorem declarator_standsAt {keyword : String} {declarator : Cursor}
    (made : declarator? source cursor (some statement) keyword declarator = some finding) :
    finding.StandsAt source statement := by
  simp only [declarator?, Option.isSome_some, if_true] at made
  split at made
  · cases made
    exact source.declare_standsAt statement _ _ _ rfl
  · -- A function, a class or any other value.
    split at made
    · cases made
      exact source.declare_standsAt statement _ _ _ rfl
    · split at made <;> cases made <;> exact source.declare_standsAt statement _ _ _ rfl

theorem exportedValue_standsAt (source : Source) (cursor value : Cursor) :
    (exportedValue source cursor value).StandsAt source cursor :=
  source.declare_standsAt cursor _ _ _ rfl

theorem asWritten_standsAt (source : Source) (cursor : Cursor) (kind : Kind) :
    (asWritten source cursor kind).StandsAt source cursor :=
  source.declare_standsAt cursor _ _ _ rfl

theorem declaredVariables_standAt
    (plain : (cursor.childrenOfKind "variable_declarator").any (requires source) = false) :
    ∀ finding ∈ declaredVariables source cursor (some statement), finding.StandsAt source statement := by
  intro finding member
  simp only [declaredVariables, plain, Bool.false_eq_true, if_false] at member
  obtain ⟨declarator, _, made⟩ := List.mem_filterMap.mp member
  exact declarator_standsAt made

theorem declarations_standAt (kinds : declaration.kind ∈ exportedKinds)
    (plain : importsModule source declaration = false) :
    ∀ finding ∈ declarations source declaration (some statement), finding.StandsAt source statement := by
  intro finding member
  cases built_of_mem member with
  | function | classDeclaration => exact source.declare_standsAt statement _ _ _ rfl
  | held is among =>
      refine declaredVariables_standAt ?_ finding among
      have listed : ["lexical_declaration", "variable_declaration"].contains declaration.kind :=
        List.contains_iff_mem.mpr is
      simpa only [importsModule, listed, Bool.true_and] using plain
  -- No export statement holds an import, another export or a member of a class.
  | imports is | exported is | exportedValue is | exportLine is | method is | field is =>
      rw [is] at kinds
      exact absurd kinds (by decide)

theorem kind_of_import (imports : importsModule source declaration) :
    declaration.kind = "lexical_declaration" ∨ declaration.kind = "variable_declaration" := by
  simpa using (Bool.and_eq_true_iff.mp imports).1

theorem declarations_of_import (imports : importsModule source declaration) (statement : Option Cursor) :
    declarations source declaration statement = [asWritten source declaration .importLine] := by
  have shown : declaredVariables source declaration statement = [asWritten source declaration .importLine] :=
    if_pos (Bool.and_eq_true_iff.mp imports).2
  rcases kind_of_import imports with is | is <;> simpa only [declarations, is] using shown

theorem declarations_of_export_standAt (exports : Exports statement)
    (plain : ∀ declaration, statement.field? "declaration" = some declaration →
      importsModule source declaration = false) :
    ∀ finding ∈ declarations source statement none, finding.StandsAt source statement := by
  rw [declarations_of_export exports.kind]
  split
  · rename_i declaration found
    split
    · exact List.forall_mem_singleton.mpr (exportedValue_standsAt ..)
    · exact declarations_standAt (exports.declaration declaration found) (plain declaration found)
  · split
    · exact List.forall_mem_singleton.mpr (exportedValue_standsAt ..)
    · exact List.forall_mem_singleton.mpr (asWritten_standsAt ..)

theorem declarations_of_import_export (exports : Exports statement)
    (found : statement.field? "declaration" = some declaration) (imports : importsModule source declaration) :
    declarations source statement none = [asWritten source declaration .importLine] := by
  simp [declarations_of_export exports.kind, found, declarations_of_import imports]

end JavaScript

namespace TypeScript

open JavaScript (importsModule)

variable {source : Source} {statement declaration : Cursor} {finding : Finding}

theorem own?_standsAt (kinds : declaration.kind ∈ exportedKinds)
    (made : own? source declaration (some statement) = some finding) : finding.StandsAt source statement := by
  cases built_of_own? made with
  | interface | typeAlias | enum | nameSpace | classDeclaration | function =>
      exact source.declare_standsAt statement _ _ _ rfl
  | method is => exact absurd kinds ((by decide : ∀ name ∈ methodKinds, name ∉ exportedKinds) _ is)
  | enumMember is => exact absurd kinds ((by decide : ∀ name ∈ enumMemberKinds, name ∉ exportedKinds) _ is)
  | property is | field is =>
      rw [is] at kinds
      exact absurd kinds (by decide)

theorem own?_of_import (imports : importsModule source declaration) (statement : Option Cursor) :
    own? source declaration statement = none := by
  apply own?_of_shared
  rcases JavaScript.kind_of_import imports with is | is <;> rw [is] <;> decide

theorem findings_of_export_standAt (exports : Exports statement)
    (plain : ∀ declaration, statement.field? "declaration" = some declaration →
      importsModule source declaration = false)
    (kind : Kind) (depth : Nat) :
    ∀ finding ∈ findings source statement kind depth, finding.StandsAt source statement := by
  rw [findings, if_pos exports.kind]
  split
  · rename_i finding own
    obtain ⟨declaration, found, made⟩ := Option.bind_eq_some_iff.mp own
    exact List.forall_mem_singleton.mpr (own?_standsAt (exports.declaration declaration found) made)
  · exact JavaScript.declarations_of_export_standAt exports plain

theorem findings_of_import_export (exports : Exports statement)
    (found : statement.field? "declaration" = some declaration) (imports : importsModule source declaration)
    (kind : Kind) (depth : Nat) :
    findings source statement kind depth = [JavaScript.asWritten source declaration .importLine] := by
  simp only [findings, if_pos exports.kind, exported?, found, Option.bind_some, own?_of_import imports]
  exact JavaScript.declarations_of_import_export exports found imports

end TypeScript

/-- The one exception is a declaration that imports a module, which is shown as written and stands at its own place. -/
theorem exports_stand_at_statement {language : Language} (scripted : language ∈ [.javaScript, .typeScript, .tsx])
    (source : Source) {statement : Cursor} (exports : Exports statement) (kind : Kind) (depth : Nat) :
    ((∀ declaration, statement.field? "declaration" = some declaration →
        JavaScript.importsModule source declaration = false) →
      ∀ finding ∈ language.grammar.findings source statement kind depth, finding.StandsAt source statement) ∧
    ∀ declaration, statement.field? "declaration" = some declaration →
      JavaScript.importsModule source declaration →
      language.grammar.findings source statement kind depth =
          [JavaScript.asWritten source declaration .importLine] ∧
        (JavaScript.asWritten source declaration .importLine).StandsAt source declaration := by
  have either : language.grammar = .javaScript ∨ language.grammar = .typeScript := by
    simp only [List.mem_cons, List.not_mem_nil, or_false] at scripted
    rcases scripted with rfl | rfl | rfl
    · exact .inl rfl
    · exact .inr rfl
    · exact .inr rfl
  refine ⟨fun plain => ?_, fun declaration found imports => ⟨?_, JavaScript.asWritten_standsAt ..⟩⟩
  · rcases either with same | same <;> rw [same]
    · exact JavaScript.declarations_of_export_standAt exports plain
    · exact TypeScript.findings_of_export_standAt exports plain kind depth
  · rcases either with same | same <;> rw [same]
    · exact JavaScript.declarations_of_import_export exports found imports
    · exact TypeScript.findings_of_import_export exports found imports kind depth

def token (text : String) (start : Nat) : Node :=
  { Node.plain text none start (start + text.utf8ByteSize) [] with named := false }

def pairText : ByteArray :=
  "// pair\nexport const f = x => x, g = 2;\n".toUTF8

def pairSource : Source :=
  Document.source .tsx pairText pairText

def pairTree : Node :=
  .plain "program" none 0 40
    [{ Node.plain "comment" none 0 7 [] with extra := true },
      .plain "export_statement" none 8 39
        [token "export" 8,
          .plain "lexical_declaration" (some "declaration") 15 39
            [{ token "const" 15 with label := some "kind" },
              .plain "variable_declarator" none 21 31
                [.plain "identifier" (some "name") 21 22 [], token "=" 23,
                  .plain "arrow_function" (some "value") 25 31
                    [.plain "identifier" (some "parameter") 25 26 [], token "=>" 27,
                      .plain "identifier" (some "body") 30 31 []]],
              token "," 31,
              .plain "variable_declarator" none 33 38
                [.plain "identifier" (some "name") 33 34 [], token "=" 35, .plain "number" (some "value") 37 38 []],
              token ";" 38]]]

theorem pairTree_stands_at_statement :
    ∃ statement, (Cursor.root pairTree).childOfKind? "export_statement" = some statement ∧
      (Language.tsx.grammar.findings pairSource statement .exportLine 0).map (·.declaration.name) = ["f", "g"] ∧
      ∀ finding ∈ Language.tsx.grammar.findings pairSource statement .exportLine 0,
        finding.StandsAt pairSource statement := by
  refine ⟨_, rfl, by decide +kernel, ?_⟩
  refine (exports_stand_at_statement (by decide) pairSource ⟨rfl, ?_⟩ .exportLine 0).1 ?_
  · intro declaration found
    cases found
    decide
  · intro declaration found
    cases found
    decide +kernel

def requireText : ByteArray :=
  "// reader\nexport const i = require('i');\n".toUTF8

def requireSource : Source :=
  Document.source .javaScript requireText requireText

def requireTree : Node :=
  .plain "program" none 0 41
    [{ Node.plain "comment" none 0 9 [] with extra := true },
      .plain "export_statement" none 10 40
        [token "export" 10,
          .plain "lexical_declaration" (some "declaration") 17 40
            [{ token "const" 17 with label := some "kind" },
              .plain "variable_declarator" none 23 39
                [.plain "identifier" (some "name") 23 24 [], token "=" 25,
                  .plain "call_expression" (some "value") 27 39
                    [.plain "identifier" (some "function") 27 34 [],
                      .plain "arguments" (some "arguments") 34 39
                        [token "(" 34,
                          .plain "string" none 35 38
                            [token "'" 35, .plain "string_fragment" none 36 37 [], token "'" 37],
                          token ")" 38]]],
              token ";" 39]]]

-- The import begins behind the word `export`, and the comment above the statement is lost.
theorem requireTree_keeps_place :
    ∃ statement, (Cursor.root requireTree).childOfKind? "export_statement" = some statement ∧ Exports statement ∧
      requireSource.column statement.start = 0 ∧ requireSource.documentation? statement = some "// reader" ∧
      (Language.javaScript.grammar.findings requireSource statement .exportLine 0).map
        (fun finding => (finding.declaration.startColumn, finding.declaration.documentation)) = [(7, none)] ∧
      ¬ ∀ finding ∈ Language.javaScript.grammar.findings requireSource statement .exportLine 0,
        finding.StandsAt requireSource statement := by
  refine ⟨_, rfl, ⟨rfl, ?_⟩, by decide +kernel, by decide +kernel, by decide +kernel, ?_⟩
  · intro declaration found
    cases found
    decide
  · intro standing
    have kept : ∀ finding ∈ Language.javaScript.grammar.findings requireSource _ .exportLine 0,
        finding.declaration.documentation = some "// reader" := fun finding made =>
      (standing finding made).documentation.trans (by decide +kernel)
    exact absurd kept (by decide +kernel)

end Grammar

end CodeOutline
