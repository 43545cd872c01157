import CodeOutline.Proofs.Exports
import CodeOutline.Proofs.Trimming

set_option autoImplicit false

namespace CodeOutline

namespace Grammar

namespace JavaScript

-- Behind the words of the statement and `gap`, at the place of the statement and with the comments above it.
def exportedAs (source : Source) (statement : Cursor) (gap : String) (finding : Finding) : Finding :=
  let declaration := finding.declaration
  { finding with
    declaration :=
      { declaration with
        signature := exportWords (some statement) ++ gap ++ declaration.signature
        documentation := source.documentation? statement
        startLine := source.line statement.start
        startColumn := (source.column statement.start).toUInt32
        endLine := source.line statement.stop } }

variable {source : Source} {cursor statement : Cursor}

theorem exportWords_beginsFilled (statement : Cursor) : Text.beginsFilled (exportWords (some statement)) := by
  rw [exportWords]
  split <;> decide

theorem signature_of_word (verbatim : source.spacing = .verbatim) (word : String) (pieces : List Piece) :
    source.signature (.word word :: pieces) = Text.trim (word ++ String.join (pieces.map (·.text source))) := by
  rw [Source.signature, verbatim, List.map_cons, String.join_cons]
  rfl

theorem signature_exported (verbatim : source.spacing = .verbatim) (statement : Cursor) {first : String}
    (filled : Text.trim first ≠ "") (pieces : List Piece) :
    source.signature (.word (exportWords none) :: .word first :: pieces) ≠ "" ∧
    source.signature (.word (exportWords (some statement)) :: .word first :: pieces) =
      exportWords (some statement) ++ Text.leadingBlanks first ++
        source.signature (.word (exportWords none) :: .word first :: pieces) := by
  have kept := Text.trim_append_ne_empty filled (String.join (pieces.map (·.text source)))
  have bare : source.signature (.word (exportWords none) :: .word first :: pieces) =
      Text.trim (first ++ String.join (pieces.map (·.text source))) := by
    rw [signature_of_word verbatim, exportWords, String.empty_append, List.map_cons, String.join_cons]
    rfl
  have longer : source.signature (.word (exportWords (some statement)) :: .word first :: pieces) =
      Text.trim (exportWords (some statement) ++ (first ++ String.join (pieces.map (·.text source)))) := by
    rw [signature_of_word verbatim, List.map_cons, String.join_cons]
    rfl
  rw [bare, longer, Text.trim_append (exportWords_beginsFilled statement) kept, Text.leadingBlanks_append filled]
  exact ⟨kept, rfl⟩

theorem exportedAs_declare {gap header : String} {name : String} {kind : Kind} {details exported : Details}
    {members : Option Cursor} (undocumented : details.documentation = none) (bare : details.signature = some header)
    (filled : header ≠ "")
    (longer : exported = { details with signature := some (exportWords (some statement) ++ gap ++ header) }) :
    (⟨source.declare statement name kind exported, members⟩ : Finding) =
      exportedAs source statement gap ⟨source.declare cursor name kind details, members⟩ := by
  simp [exportedAs, Source.declare, longer, undocumented, bare, filled, Option.filter]

theorem declare_exported (verbatim : source.spacing = .verbatim) {first : String} (filled : Text.trim first ≠ "")
    {name : String} {kind : Kind} {details exported : Details} {members : Option Cursor} {pieces : List Piece}
    (undocumented : details.documentation = none)
    (bare : details.signature = some (source.signature (.word (exportWords none) :: .word first :: pieces)))
    (longer : exported = { details with
      signature := some (source.signature (.word (exportWords (some statement)) :: .word first :: pieces)) }) :
    (⟨source.declare statement name kind exported, members⟩ : Finding) =
      exportedAs source statement (Text.leadingBlanks first) ⟨source.declare cursor name kind details, members⟩ := by
  obtain ⟨notEmpty, same⟩ := signature_exported verbatim statement filled pieces
  exact exportedAs_declare undocumented bare notEmpty (same ▸ longer)

theorem classDeclaration_exported (verbatim : source.spacing = .verbatim) (cursor statement : Cursor) :
    classDeclaration source cursor (some statement) =
      exportedAs source statement "" (classDeclaration source cursor none) := by
  have word : ∀ isAbstract : Bool, Text.trim (if isAbstract then "abstract class " else "class ") ≠ "" ∧
      Text.leadingBlanks (if isAbstract then "abstract class " else "class ") = "" := by decide
  obtain ⟨filled, noBlanks⟩ := word (cursor.kind == "abstract_class_declaration")
  rw [← noBlanks]
  exact declare_exported verbatim filled rfl rfl rfl

theorem signature_of_words (lead : Piece) (first second : String) (pieces : List Piece) :
    source.signature (lead :: .word first :: .word second :: pieces) =
      source.signature (lead :: .word (first ++ second) :: pieces) := by
  simp [Source.signature, Piece.text, String.append_assoc]

theorem functionHeader_exported (verbatim : source.spacing = .verbatim) (statement : Cursor) (isAsync generates : Bool)
    (pieces : List Piece) :
    source.signature (.word (exportWords none) :: .word (if isAsync then "async " else "") ::
      .word (if generates then "function* " else "function ") :: pieces) ≠ "" ∧
    source.signature (.word (exportWords (some statement)) :: .word (if isAsync then "async " else "") ::
      .word (if generates then "function* " else "function ") :: pieces) =
      exportWords (some statement) ++ source.signature (.word (exportWords none) ::
        .word (if isAsync then "async " else "") :: .word (if generates then "function* " else "function ") :: pieces) := by
  have words : ∀ isAsync generates : Bool,
      Text.trim ((if isAsync then "async " else "") ++ if generates then "function* " else "function ") ≠ "" ∧
      Text.leadingBlanks ((if isAsync then "async " else "") ++ if generates then "function* " else "function ") =
        "" := by decide
  obtain ⟨filled, noBlanks⟩ := words isAsync generates
  have exported := signature_exported verbatim statement filled pieces
  rw [noBlanks, String.append_empty] at exported
  rw [signature_of_words, signature_of_words]
  exact exported

theorem function_exported (verbatim : source.spacing = .verbatim) (cursor statement : Cursor) :
    function source cursor (some statement) = exportedAs source statement "" (function source cursor none) := by
  obtain ⟨notEmpty, longer⟩ := functionHeader_exported verbatim statement (cursor.hasChild "async")
    (isGenerator cursor || cursor.hasChild "*") (.field cursor "name" :: callablePieces cursor)
  unfold function
  dsimp only [List.cons_append, List.nil_append]
  rw [longer]
  refine exportedAs_declare rfl rfl ?_ ?_
  · split
    · exact notEmpty
    · simp
  · split <;> simp [place, String.append_assoc]

def soleKinds : List String :=
  ["function_declaration", "generator_function_declaration", "class_declaration"]

theorem sole_exported (verbatim : source.spacing = .verbatim) {declaration : Cursor}
    (sole : declaration.kind ∈ soleKinds) (statement : Cursor) :
    ∃ plain, declarations source declaration none = [plain] ∧
      declarations source declaration (some statement) = [exportedAs source statement "" plain] := by
  simp only [soleKinds, List.mem_cons, List.not_mem_nil, or_false] at sole
  rcases sole with is | is | is <;> simp only [declarations, is, List.cons.injEq, and_true, exists_eq_left']
  · exact function_exported verbatim declaration statement
  · exact function_exported verbatim declaration statement
  · exact classDeclaration_exported verbatim declaration statement

def holdsDefinition (declarator : Cursor) : Bool :=
  (declarator.field? "value").any fun value => isFunctionValue value || value.kind == "class"

def exportedVariable (source : Source) (statement : Cursor) (keyword : String) (declarator : Cursor) : Finding :=
  source.leaf statement (source.nameAt declarator) (if keyword = "const" then .const else .var)
    { signature := some <| source.signature
        [.word (exportWords (some statement)), .word keyword, .word " ", .word (source.nameAt declarator),
          .field declarator "type", .word ";"]
      body := some .bare }

theorem declarator?_of_other {keyword : String} {declarator : Cursor} (other : holdsDefinition declarator = false)
    (cursor statement : Cursor) :
    declarator? source cursor none keyword declarator = none ∧
      declarator? source cursor (some statement) keyword declarator =
        some (exportedVariable source statement keyword declarator) := by
  have bare : (if keyword = "const" then Kind.const else .var).defaultBody = .bare := by split <;> rfl
  cases found : declarator.field? "value" with
  | none => simp [declarator?, found, exportedVariable, Source.leaf, Source.declare, place, bare]
  | some value =>
      obtain ⟨notFunction, notClass⟩ : isFunctionValue value = false ∧ value.kind ≠ "class" := by
        simpa [holdsDefinition, found] using other
      simp [declarator?, found, notFunction, notClass, exportedVariable, Source.leaf, Source.declare, place, bare]

theorem declarator?_of_definition (verbatim : source.spacing = .verbatim) {keyword : String}
    (filled : Text.trim keyword ≠ "") {declarator : Cursor} (holds : holdsDefinition declarator)
    (cursor statement : Cursor) :
    ∃ plain, declarator? source cursor none keyword declarator = some plain ∧
      declarator? source cursor (some statement) keyword declarator =
        some (exportedAs source statement (Text.leadingBlanks keyword) plain) := by
  obtain ⟨value, found, definition⟩ := (Option.any_eq_true _ _).mp holds
  simp only [declarator?, found]
  by_cases callable : isFunctionValue value
  · simp only [if_pos callable, Option.some.injEq, exists_eq_left']
    exact declare_exported verbatim filled rfl rfl rfl
  · have isClass : value.kind = "class" := by simpa [callable] using definition
    simp only [if_neg callable, if_pos isClass, Option.some.injEq, exists_eq_left']
    exact declare_exported verbatim filled rfl rfl rfl

def exportedDeclarator (source : Source) (statement : Cursor) (keyword : String) (plain : Cursor → Finding)
    (declarator : Cursor) : Finding :=
  if holdsDefinition declarator then exportedAs source statement (Text.leadingBlanks keyword) (plain declarator)
  else exportedVariable source statement keyword declarator

theorem declarators_exported (verbatim : source.spacing = .verbatim) {keyword : String}
    (filled : Text.trim keyword ≠ "") (cursor statement : Cursor) :
    ∃ plain : Cursor → Finding, ∀ declarators : List Cursor,
      declarators.filterMap (declarator? source cursor none keyword) =
        (declarators.filter holdsDefinition).map plain ∧
      declarators.filterMap (declarator? source cursor (some statement) keyword) =
        declarators.map (exportedDeclarator source statement keyword plain) := by
  refine ⟨fun declarator => (declarator? source cursor none keyword declarator).getD default, fun declarators => ?_⟩
  constructor
  · rw [← List.filterMap_eq_map, List.filterMap_filter]
    refine List.filterMap_congr fun declarator _ => ?_
    cases holds : holdsDefinition declarator with
    | false => simpa using (declarator?_of_other holds cursor cursor).1
    | true =>
        obtain ⟨plain, made, _⟩ := declarator?_of_definition verbatim filled holds cursor cursor
        simp [made]
  · rw [← List.filterMap_eq_map]
    refine List.filterMap_congr fun declarator _ => ?_
    cases holds : holdsDefinition declarator with
    | false => simp [exportedDeclarator, holds, declarator?_of_other holds cursor statement]
    | true =>
        obtain ⟨plain, made, exported⟩ := declarator?_of_definition verbatim filled holds cursor statement
        simp [exportedDeclarator, holds, made, exported]

theorem declarations_of_variables {declaration : Cursor}
    (kinds : declaration.kind ∈ ["lexical_declaration", "variable_declaration"])
    (noModule : importsModule source declaration = false) (statement : Option Cursor) :
    declarations source declaration statement = (declaration.childrenOfKind "variable_declarator").filterMap
      (declarator? source declaration statement (variableKeyword source declaration)) := by
  have noRequire : (declaration.childrenOfKind "variable_declarator").any (requires source) = false := by
    simpa only [importsModule, List.contains_iff_mem.mpr kinds, Bool.true_and] using noModule
  have each : declaredVariables source declaration statement = _ := if_neg (Bool.eq_false_iff.mp noRequire)
  simp only [List.mem_cons, List.not_mem_nil, or_false] at kinds
  rcases kinds with is | is <;> simpa only [declarations, is] using each

theorem declarations_of_exported {declaration : Cursor} (isExport : statement.kind = "export_statement")
    (found : statement.field? "declaration" = some declaration) :
    declarations source statement none =
      if declarations source declaration (some statement) = [] then [exportedValue source statement declaration]
      else declarations source declaration (some statement) := by
  simp only [declarations_of_export isExport, found, List.isEmpty_iff]

end JavaScript

namespace TypeScript

open JavaScript (exportedAs exportedAs_declare declare_exported)

variable {source : Source}

theorem interface_exported (verbatim : source.spacing = .verbatim) (cursor statement : Cursor) :
    interface source cursor (some statement) = exportedAs source statement "" (interface source cursor none) :=
  declare_exported verbatim (show Text.trim "interface " ≠ "" by decide) rfl rfl rfl

theorem typeAlias_exported (verbatim : source.spacing = .verbatim) (cursor statement : Cursor) :
    typeAlias source cursor (some statement) = exportedAs source statement "" (typeAlias source cursor none) :=
  declare_exported verbatim (show Text.trim "type " ≠ "" by decide) rfl rfl rfl

theorem enum_exported (verbatim : source.spacing = .verbatim) (cursor statement : Cursor) :
    enum source cursor (some statement) = exportedAs source statement "" (enum source cursor none) := by
  have word : ∀ isConst : Bool, Text.trim (if isConst then "const enum " else "enum ") ≠ "" ∧
      Text.leadingBlanks (if isConst then "const enum " else "enum ") = "" := by decide
  obtain ⟨filled, noBlanks⟩ := word (cursor.hasChild "const")
  rw [← noBlanks]
  exact declare_exported verbatim filled rfl rfl rfl

-- The header of a namespace is an excerpt, which is empty where the content ends before it.
theorem nameSpace_exported {cursor : Cursor} (filled : source.header cursor (cursor.field? "body") ≠ "")
    (statement : Cursor) :
    nameSpace source cursor (some statement) = exportedAs source statement "" (nameSpace source cursor none) := by
  refine exportedAs_declare rfl (congrArg some String.empty_append) filled ?_
  rw [String.append_empty]
  rfl

def soleKinds : List String :=
  ["interface_declaration", "type_alias_declaration", "enum_declaration", "internal_module", "module",
    "abstract_class_declaration", "function_signature"]

theorem own?_exported (verbatim : source.spacing = .verbatim) {declaration : Cursor}
    (sole : declaration.kind ∈ soleKinds)
    (filled : declaration.kind ∈ ["internal_module", "module"] →
      source.header declaration (declaration.field? "body") ≠ "")
    (statement : Cursor) :
    ∃ plain, own? source declaration none = some plain ∧
      own? source declaration (some statement) = some (exportedAs source statement "" plain) := by
  simp only [soleKinds, List.mem_cons, List.not_mem_nil, or_false] at sole
  rcases sole with is | is | is | is | is | is | is <;> simp only [own?, is, Option.some.injEq, exists_eq_left']
  · exact interface_exported verbatim declaration statement
  · exact typeAlias_exported verbatim declaration statement
  · exact enum_exported verbatim declaration statement
  · exact nameSpace_exported (filled (by simp [is])) statement
  · exact nameSpace_exported (filled (by simp [is])) statement
  · exact JavaScript.classDeclaration_exported verbatim declaration statement
  · exact JavaScript.function_exported verbatim declaration statement

theorem findings_of_shared (source : Source) {declaration : Cursor}
    (shared : declaration.kind ∉ "property_identifier" :: ownKinds) (kind : Kind) (depth : Nat) :
    (declaration.kind ≠ "export_statement" →
      findings source declaration kind depth = JavaScript.declarations source declaration none) ∧
    ∀ statement : Cursor, statement.kind = "export_statement" → statement.field? "declaration" = some declaration →
      findings source statement kind depth = JavaScript.declarations source statement none := by
  constructor
  · intro notExport
    simp only [findings, if_neg notExport, own?_of_shared source none shared]
  · intro statement isExport found
    simp only [findings, if_pos isExport, exported?, found, Option.bind_some, own?_of_shared source _ shared]

end TypeScript

open JavaScript (exportedAs exportedDeclarator exportedValue holdsDefinition importsModule variableKeyword)

def soleKinds (language : Language) : List String :=
  JavaScript.soleKinds ++ if language = .javaScript then [] else TypeScript.soleKinds

variable {language : Language} {source : Source} {statement declaration : Cursor}

theorem grammar_of_scripted (scripted : language ∈ [.javaScript, .typeScript, .tsx]) :
    language.spacing = .verbatim ∧
      (language = .javaScript ∧ language.grammar = .javaScript ∨
        language ≠ .javaScript ∧ language.grammar = .typeScript) := by
  simp only [List.mem_cons, List.not_mem_nil, or_false] at scripted
  rcases scripted with rfl | rfl | rfl
  · exact ⟨rfl, .inl ⟨rfl, rfl⟩⟩
  · exact ⟨rfl, .inr ⟨by decide, rfl⟩⟩
  · exact ⟨rfl, .inr ⟨by decide, rfl⟩⟩

theorem findings_of_common (source : Source) (scripted : language ∈ [.javaScript, .typeScript, .tsx])
    (isExport : statement.kind = "export_statement") (found : statement.field? "declaration" = some declaration)
    (common : declaration.kind ∈ JavaScript.soleKinds ++ ["lexical_declaration", "variable_declaration"])
    (kind : Kind) (depth : Nat) :
    language.grammar.findings source declaration kind depth = JavaScript.declarations source declaration none ∧
      language.grammar.findings source statement kind depth = JavaScript.declarations source statement none := by
  obtain ⟨shared, notExport⟩ : declaration.kind ∉ "property_identifier" :: TypeScript.ownKinds ∧
      declaration.kind ≠ "export_statement" := by
    revert common
    generalize declaration.kind = kind
    revert kind
    decide
  rcases (grammar_of_scripted scripted).2 with ⟨_, same⟩ | ⟨_, same⟩ <;> rw [same]
  · exact ⟨rfl, rfl⟩
  · obtain ⟨alone, exported⟩ := TypeScript.findings_of_shared source shared kind depth
    exact ⟨alone notExport, exported statement isExport found⟩

theorem sole_findings_exported (scripted : language ∈ [.javaScript, .typeScript, .tsx])
    (spacing : source.spacing = language.spacing) (isExport : statement.kind = "export_statement")
    (found : statement.field? "declaration" = some declaration) (sole : declaration.kind ∈ soleKinds language)
    (filled : declaration.kind ∈ ["internal_module", "module"] →
      source.header declaration (declaration.field? "body") ≠ "") :
    ∃ plain, ∀ kind depth, language.grammar.findings source declaration kind depth = [plain] ∧
      language.grammar.findings source statement kind depth = [exportedAs source statement "" plain] := by
  obtain ⟨verbatim, either⟩ := grammar_of_scripted scripted
  rcases List.mem_append.mp sole with common | typed
  · obtain ⟨plain, bare, exported⟩ := JavaScript.sole_exported (spacing.trans verbatim) common statement
    refine ⟨plain, fun kind depth => ?_⟩
    obtain ⟨alone, held⟩ := findings_of_common source scripted isExport found
      (List.mem_append_left _ common) kind depth
    rw [alone, held, JavaScript.declarations_of_exported isExport found, exported]
    exact ⟨bare, rfl⟩
  · rcases either with ⟨isJavaScript, _⟩ | ⟨notJavaScript, same⟩
    · rw [if_pos isJavaScript] at typed
      cases typed
    · rw [if_neg notJavaScript] at typed
      have notExport : declaration.kind ≠ "export_statement" := fun is => absurd (is ▸ typed) (by decide)
      obtain ⟨plain, bare, exported⟩ := TypeScript.own?_exported (spacing.trans verbatim) typed filled statement
      refine ⟨plain, fun kind depth => ?_⟩
      rw [same]
      constructor
      · simp only [typeScript, TypeScript.findings, if_neg notExport, bare]
      · simp only [typeScript, TypeScript.findings, if_pos isExport, TypeScript.exported?, found, Option.bind_some,
          exported]

theorem variable_findings_exported (scripted : language ∈ [.javaScript, .typeScript, .tsx])
    (spacing : source.spacing = language.spacing) (isExport : statement.kind = "export_statement")
    (found : statement.field? "declaration" = some declaration)
    (kinds : declaration.kind ∈ ["lexical_declaration", "variable_declaration"])
    (filled : Text.trim (variableKeyword source declaration) ≠ "")
    (noModule : importsModule source declaration = false) :
    ∃ plain : Cursor → Finding, ∀ kind depth,
      language.grammar.findings source declaration kind depth =
        ((declaration.childrenOfKind "variable_declarator").filter holdsDefinition).map plain ∧
      language.grammar.findings source statement kind depth =
        if declaration.childrenOfKind "variable_declarator" = [] then [exportedValue source statement declaration]
        else (declaration.childrenOfKind "variable_declarator").map
          (exportedDeclarator source statement (variableKeyword source declaration) plain) := by
  have verbatim := spacing.trans (grammar_of_scripted scripted).1
  obtain ⟨plain, each⟩ := JavaScript.declarators_exported verbatim filled declaration statement
  refine ⟨plain, fun kind depth => ?_⟩
  obtain ⟨bare, exported⟩ := each (declaration.childrenOfKind "variable_declarator")
  obtain ⟨alone, held⟩ := findings_of_common source scripted isExport found
    (List.mem_append_right _ kinds) kind depth
  rw [alone, held, JavaScript.declarations_of_exported isExport found,
    JavaScript.declarations_of_variables kinds noModule, JavaScript.declarations_of_variables kinds noModule, bare,
    exported]
  simp only [List.map_eq_nil_iff, and_self]

/-- An export statement puts its words before what its declaration declares alone. Blanks that the keyword of a
variable begins with stay between the words and the signature. -/
theorem exports_declare_behind_words (scripted : language ∈ [.javaScript, .typeScript, .tsx])
    (spacing : source.spacing = language.spacing) (isExport : statement.kind = "export_statement")
    (found : statement.field? "declaration" = some declaration) :
    (declaration.kind ∈ soleKinds language →
      (declaration.kind ∈ ["internal_module", "module"] →
        source.header declaration (declaration.field? "body") ≠ "") →
      ∃ plain, ∀ kind depth, language.grammar.findings source declaration kind depth = [plain] ∧
        language.grammar.findings source statement kind depth = [exportedAs source statement "" plain]) ∧
    (declaration.kind ∈ ["lexical_declaration", "variable_declaration"] →
      Text.trim (variableKeyword source declaration) ≠ "" → importsModule source declaration = false →
      ∃ plain : Cursor → Finding, ∀ kind depth,
        language.grammar.findings source declaration kind depth =
          ((declaration.childrenOfKind "variable_declarator").filter holdsDefinition).map plain ∧
        language.grammar.findings source statement kind depth =
          if declaration.childrenOfKind "variable_declarator" = [] then [exportedValue source statement declaration]
          else (declaration.childrenOfKind "variable_declarator").map
            (exportedDeclarator source statement (variableKeyword source declaration) plain)) :=
  ⟨sole_findings_exported scripted spacing isExport found, variable_findings_exported scripted spacing isExport found⟩

def runText : ByteArray :=
  "export default function run() \x7b\x7d\n".toUTF8

def runSource : Source :=
  Document.source .typeScript runText runText

def runTree : Node :=
  .plain "program" none 0 33
    [.plain "export_statement" none 0 32
      [token "export" 0, token "default" 7,
        .plain "function_declaration" (some "declaration") 15 32
          [token "function" 15, .plain "identifier" (some "name") 24 27 [],
            .plain "formal_parameters" (some "parameters") 27 29 [token "(" 27, token ")" 28],
            .plain "statement_block" (some "body") 30 32 [token "\x7b" 30, token "\x7d" 31]]]]

theorem run_and_pair_behind_words :
    (∃ statement declaration plain, (Cursor.root runTree).childOfKind? "export_statement" = some statement ∧
      Language.typeScript.grammar.findings runSource declaration .function 0 = [plain] ∧
      Language.typeScript.grammar.findings runSource statement .exportLine 0 =
        [exportedAs runSource statement "" plain] ∧
      (Language.typeScript.grammar.findings runSource statement .exportLine 0).map (·.declaration.signature) =
        ["export default function run()"]) ∧
    ∃ statement declaration plain, (Cursor.root pairTree).childOfKind? "export_statement" = some statement ∧
      Language.tsx.grammar.findings pairSource declaration .var 0 =
        ((declaration.childrenOfKind "variable_declarator").filter holdsDefinition).map plain ∧
      Language.tsx.grammar.findings pairSource statement .exportLine 0 =
        (declaration.childrenOfKind "variable_declarator").map
          (exportedDeclarator pairSource statement (variableKeyword pairSource declaration) plain) ∧
      (Language.tsx.grammar.findings pairSource statement .exportLine 0).map (·.declaration.signature) =
        ["export const f = x =>", "export const g;"] := by
  constructor
  · obtain ⟨statement, declaration, inside, isExport, found, sole, other⟩ : ∃ statement declaration,
        (Cursor.root runTree).childOfKind? "export_statement" = some statement ∧
        statement.kind = "export_statement" ∧ statement.field? "declaration" = some declaration ∧
        declaration.kind ∈ soleKinds .typeScript ∧ declaration.kind ∉ ["internal_module", "module"] :=
      ⟨_, _, rfl, rfl, rfl, by decide, by decide⟩
    have spacing : runSource.spacing = Language.typeScript.spacing := rfl
    obtain ⟨plain, both⟩ := (exports_declare_behind_words (by decide) spacing isExport found).1 sole (absurd · other)
    refine ⟨statement, declaration, plain, inside, (both .function 0).1, (both .exportLine 0).2, ?_⟩
    cases inside
    decide +kernel
  · obtain ⟨statement, declaration, inside, isExport, found, kinds, filled, noModule, present⟩ :
        ∃ statement declaration, (Cursor.root pairTree).childOfKind? "export_statement" = some statement ∧
        statement.kind = "export_statement" ∧ statement.field? "declaration" = some declaration ∧
        declaration.kind ∈ ["lexical_declaration", "variable_declaration"] ∧
        Text.trim (variableKeyword pairSource declaration) ≠ "" ∧ importsModule pairSource declaration = false ∧
        declaration.childrenOfKind "variable_declarator" ≠ [] :=
      ⟨_, _, rfl, rfl, rfl, by decide, by decide +kernel, by decide +kernel, by decide +kernel⟩
    have spacing : pairSource.spacing = Language.tsx.spacing := rfl
    obtain ⟨plain, both⟩ :=
      (exports_declare_behind_words (by decide) spacing isExport found).2 kinds filled noModule
    refine ⟨statement, declaration, plain, inside, (both .var 0).1, (both .exportLine 0).2.trans (if_neg present), ?_⟩
    cases inside
    decide +kernel

def arrowText : ByteArray :=
  "export const f = (a) => a;\n".toUTF8

def arrowContent : ByteArray :=
  "export   var f = (a) => a;\n".toUTF8

def arrowSource : Source :=
  Document.source .javaScript arrowText arrowContent

def arrowTree : Node :=
  .plain "program" none 0 27
    [.plain "export_statement" none 0 26
      [token "export" 0,
        .plain "lexical_declaration" (some "declaration") 7 26
          [{ token "const" 7 with label := some "kind" },
            .plain "variable_declarator" none 13 25
              [.plain "identifier" (some "name") 13 14 [], token "=" 15,
                .plain "arrow_function" (some "value") 17 25
                  [.plain "formal_parameters" (some "parameters") 17 20
                      [token "(" 17, .plain "identifier" none 18 19 [], token ")" 19],
                    token "=>" 21, .plain "identifier" (some "body") 24 25 []]],
            token ";" 25]]]

-- The keyword is not blank, yet the signature is not that of the bare function with the words in front.
theorem arrowTree_keeps_blanks :
    ∃ statement declaration, (Cursor.root arrowTree).childOfKind? "export_statement" = some statement ∧
      statement.field? "declaration" = some declaration ∧ declaration.kind = "lexical_declaration" ∧
      Text.trim (variableKeyword arrowSource declaration) ≠ "" ∧ importsModule arrowSource declaration = false ∧
      (declaration.childrenOfKind "variable_declarator").map holdsDefinition = [true] ∧
      (Language.javaScript.grammar.findings arrowSource declaration .var 0).map (·.declaration.signature) =
        ["var f = (a) =>"] ∧
      (Language.javaScript.grammar.findings arrowSource statement .exportLine 0).map (·.declaration.signature) =
        ["export   var f = (a) =>"] ∧
      (Language.javaScript.grammar.findings arrowSource statement .exportLine 0).map (·.declaration.signature) ≠
        (Language.javaScript.grammar.findings arrowSource declaration .var 0).map
          (JavaScript.exportWords (some statement) ++ ·.declaration.signature) :=
  ⟨_, _, rfl, rfl, rfl, by decide +kernel, by decide +kernel, by decide +kernel, by decide +kernel, by decide +kernel,
    by decide +kernel⟩

end Grammar

end CodeOutline
