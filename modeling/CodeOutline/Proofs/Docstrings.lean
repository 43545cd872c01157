import CodeOutline.Proofs.Exports
import CodeOutline.Proofs.Trimming

set_option autoImplicit false

namespace CodeOutline.Grammar

namespace Python

def delimiters : List String :=
  ["'", "\"", "'''", "\"\"\""]

structure Literal (text letters delimiter content : String) : Prop where
  text : text = letters ++ delimiter ++ content ++ delimiter
  letters : ∀ c ∈ letters.toList, isStringMark c
  delimiter : delimiter ∈ delimiters

structure BeginsWith (definition literal : Cursor) : Prop where
  statement : ∃ body statement, definition.field? "body" = some body ∧ body.firstNamed? = some statement ∧
    statement.kind = "expression_statement" ∧ statement.firstNamed? = some literal
  kind : literal.kind = "string"

def shownContent (content : String) : String :=
  Text.trim (Text.trimWhile isQuote content)

-- The comments above a definition and its decorators, or else those between the decorators and the definition.
def commentsAbove (source : Source) (definition : Cursor) : Option String :=
  (source.documentation? ((decorated? definition).getD definition)).or (source.documentation? definition)

theorem quotes_of_delimiter {delimiter : String} (listed : delimiter ∈ delimiters) :
    (∀ c ∈ delimiter.toList, isQuote c) ∧
      ∃ quote rest, delimiter.toList = quote :: rest ∧ isStringMark quote = false := by
  simp only [delimiters, List.mem_cons, List.not_mem_nil, or_false] at listed
  rcases listed with rfl | rfl | rfl | rfl <;> exact ⟨List.all_eq_true.mp rfl, _, _, rfl, rfl⟩

theorem trimStartWhile_letters {letters delimiter : String} (marks : ∀ c ∈ letters.toList, isStringMark c)
    (listed : delimiter ∈ delimiters) (rest : String) :
    Text.trimStartWhile isStringMark (letters ++ (delimiter ++ rest)) = delimiter ++ rest := by
  obtain ⟨_, quote, others, spelled, noMark⟩ := quotes_of_delimiter listed
  rw [← String.toList_inj, Text.trimStartWhile, String.toList_ofList, String.toList_append,
    List.dropWhile_append_of_pos marks, Text.dropWhile_eq_self, String.toList_append, spelled]
  exact noMark

theorem unquoted_of_literal {text letters delimiter content : String}
    (literal : Literal text letters delimiter content) : unquoted text = shownContent content := by
  have quotes := (quotes_of_delimiter literal.delimiter).1
  rw [unquoted, literal.text, String.append_assoc, String.append_assoc,
    trimStartWhile_letters literal.letters literal.delimiter, ← String.append_assoc,
    Text.trimWhile_surrounded quotes quotes, shownContent]

theorem not_isQuote_of_isBlank {c : Char} (blank : Text.isBlank c) : isQuote c = false := by
  rw [isQuote, Bool.or_eq_false_iff, beq_eq_false_iff_ne, beq_eq_false_iff_ne]
  constructor
  · rintro rfl
    exact absurd blank (by decide)
  · rintro rfl
    exact absurd blank (by decide)

theorem shownContent_eq_trim_iff {content : String} :
    shownContent content = Text.trim content ↔ Text.endsIn isQuote content = false :=
  Text.trimWhile_trimWhile_eq_iff (fun _ => not_isQuote_of_isBlank) content

variable {source : Source} {definition literal : Cursor}

theorem docstring?_of_literal {letters delimiter content : String} (begins : BeginsWith definition literal)
    (written : Literal (source.text literal) letters delimiter content) :
    docstring? source definition = if shownContent content = "" then none else some (shownContent content) := by
  obtain ⟨⟨body, statement, found, first, isStatement, inside⟩, isString⟩ := begins
  have node : docstringNode? definition = some literal := by
    simp [docstringNode?, found, first, isStatement, inside, isString, Option.filter]
  rw [docstring?, node, Option.map_some, unquoted_of_literal written]
  by_cases empty : shownContent content = ""
  · simp [empty]
  · simp [empty, Option.filter]

theorem finding_of_definition (source : Source)
    (isDefinition : definition.kind ∈ ["function_definition", "class_definition"]) (depth : Nat) :
    ∃ kind finding, python.role source definition = .declares kind ∧
      python.findings source definition kind depth = [finding] ∧
      finding.declaration.documentation = (docstring? source definition).or (commentsAbove source definition) := by
  have documented : ∀ details : Details, details.documentation = documentation? source definition → ∀ name kind,
      (source.declare definition name kind details).documentation =
        (docstring? source definition).or (commentsAbove source definition) := by
    intro details same name kind
    rw [Source.declare, same, documentation?, commentsAbove, Option.or_assoc]
  simp only [List.mem_cons, List.not_mem_nil, or_false] at isDefinition
  rcases isDefinition with is | is
  · have code : definition.isComment = false := (Cursor.isComment_of_kind is).trans (by decide)
    exact ⟨.function, function source definition depth, by simp [python, role, code, is], rfl, documented _ rfl _ _⟩
  · have code : definition.isComment = false := (Cursor.isComment_of_kind is).trans (by decide)
    exact ⟨.classType, classDefinition source definition, by simp [python, role, code, is], rfl, documented _ rfl _ _⟩

/-- Quotes at the ends of the content are taken for delimiters and lost. -/
theorem docstring_loses_quotes_at_ends (source : Source) {definition literal : Cursor}
    {letters delimiter content : String}
    (isDefinition : definition.kind ∈ ["function_definition", "class_definition"])
    (begins : BeginsWith definition literal) (written : Literal (source.text literal) letters delimiter content)
    (depth : Nat) :
    ∃ kind finding, python.role source definition = .declares kind ∧
      python.findings source definition kind depth = [finding] ∧
      (Text.endsIn isQuote content = false →
        finding.declaration.documentation =
          if Text.trim content = "" then commentsAbove source definition else some (Text.trim content)) ∧
      (Text.endsIn isQuote content →
        shownContent content ≠ Text.trim content ∧
        finding.declaration.documentation =
          if shownContent content = "" then commentsAbove source definition else some (shownContent content)) := by
  obtain ⟨kind, finding, role, made, documented⟩ := finding_of_definition source isDefinition depth
  have shown : finding.declaration.documentation =
      if shownContent content = "" then commentsAbove source definition else some (shownContent content) := by
    rw [documented, docstring?_of_literal begins written]
    by_cases empty : shownContent content = ""
    · rw [if_pos empty, if_pos empty, Option.none_or]
    · rw [if_neg empty, if_neg empty, Option.some_or]
  refine ⟨kind, finding, role, made, fun bare => ?_, fun quoted => ⟨fun same => ?_, shown⟩⟩
  · rw [shown, shownContent_eq_trim_iff.mpr bare]
  · rw [shownContent_eq_trim_iff.mp same] at quoted
    cases quoted

def remarkText : ByteArray :=
  "class C:\n    r'''it's \"so\" '''\n".toUTF8

def remarkSource : Source :=
  Document.source .python remarkText remarkText

def remarkTree : Node :=
  .plain "module" none 0 31
    [.plain "class_definition" none 0 30
      [token "class" 0,
        .plain "identifier" (some "name") 6 7 [],
        token ":" 7,
        .plain "block" (some "body") 13 30
          [.plain "expression_statement" none 13 30
            [.plain "string" none 13 30
              [.plain "string_start" none 13 17 [], .plain "string_content" none 17 27 [],
                .plain "string_end" none 27 30 []]]]]]

theorem remarkTree_documented :
    ∃ definition literal, (Cursor.root remarkTree).childOfKind? "class_definition" = some definition ∧
      BeginsWith definition literal ∧
      Literal (remarkSource.text literal) "r" "'''" "it's \"so\" " ∧
      ∃ kind finding, python.role remarkSource definition = .declares kind ∧
        python.findings remarkSource definition kind 0 = [finding] ∧
        finding.declaration.documentation = some "it's \"so\"" := by
  obtain ⟨definition, literal, found, isClass, begins, written⟩ : ∃ definition literal,
      (Cursor.root remarkTree).childOfKind? "class_definition" = some definition ∧
      definition.kind = "class_definition" ∧ BeginsWith definition literal ∧
      Literal (remarkSource.text literal) "r" "'''" "it's \"so\" " :=
    ⟨_, _, rfl, rfl, ⟨⟨_, _, rfl, rfl, rfl, rfl⟩, rfl⟩, ⟨by decide +kernel, List.all_eq_true.mp rfl, by decide⟩⟩
  obtain ⟨kind, finding, role, made, bare, _⟩ :=
    docstring_loses_quotes_at_ends remarkSource (by simp [isClass]) begins written 0
  exact ⟨definition, literal, found, begins, written, kind, finding, role, made, bare (by decide)⟩

def tickText : ByteArray :=
  "def h():\n    ''''tick'''\n".toUTF8

def tickSource : Source :=
  Document.source .python tickText tickText

def tickTree : Node :=
  .plain "module" none 0 25
    [.plain "function_definition" none 0 24
      [token "def" 0,
        .plain "identifier" (some "name") 4 5 [],
        .plain "parameters" (some "parameters") 5 7
          [token "(" 5, token ")" 6],
        token ":" 7,
        .plain "block" (some "body") 13 24
          [.plain "expression_statement" none 13 24
            [.plain "string" none 13 24
              [.plain "string_start" none 13 16 [], .plain "string_content" none 16 21 [],
                .plain "string_end" none 21 24 []]]]]]

theorem tickTree_loses_quote :
    ∃ definition literal, (Cursor.root tickTree).childOfKind? "function_definition" = some definition ∧
      BeginsWith definition literal ∧ Literal (tickSource.text literal) "" "'''" "'tick" ∧
      Text.trim "'tick" = "'tick" ∧
      (python.findings tickSource definition .function 0).map (·.declaration.documentation) = [some "tick"] :=
  ⟨_, _, rfl, ⟨⟨_, _, rfl, rfl, rfl, rfl⟩, rfl⟩, ⟨by decide +kernel, List.all_eq_true.mp rfl, by decide⟩, by decide,
    by decide +kernel⟩

end Python

end CodeOutline.Grammar
