import CodeOutline.Proofs.Exports
import CodeOutline.Proofs.Trimming

set_option autoImplicit false

namespace CodeOutline

namespace Grammar.Go

def specifications (declaration : Cursor) : List Cursor :=
  if declaration.kind = "type_declaration" then declaration.namedChildren.filter isTypeSpec
  else declaration.namedChildren.flatMap fun child =>
    if child.kind = "var_spec_list" then child.childrenOfKind "var_spec" else [child].filter isValueSpec

-- A list of variables is a sign of a group only where variables are declared.
def isGroup (declaration : Cursor) : Bool :=
  declaration.hasChild "(" || 1 < (specifications declaration).length ||
    (declaration.kind != "type_declaration" && declaration.namedChildren.any (·.kind == "var_spec_list"))

structure MadeAt (source : Source) (nameOf : Cursor → String)
    (make : Cursor → Cursor → Option String → Finding) : Prop where
  name : ∀ spec place documentation, (make spec place documentation).declaration.name = nameOf spec
  spans : ∀ spec place documentation,
    (make spec place documentation).declaration.Spans source place.start place.stop
  documentation : ∀ spec place documentation,
    (make spec place documentation).declaration.documentation = documentation.or (source.documentation? place)

variable {source : Source} {declaration : Cursor}

theorem valueSpec_madeAt (source : Source) (kind : Kind) :
    MadeAt source (firstName source) (valueSpec source kind) where
  name spec place documentation := by
    simp only [valueSpec, Source.leaf, Source.declare, firstName, List.head?_map]
  spans spec place documentation := Declaration.declare_spans ..
  documentation spec place documentation := rfl

theorem findings_of_values (isDeclaration : declaration.kind ∈ ["const_declaration", "var_declaration"])
    (source : Source) (kind : Kind) (depth : Nat) :
    go.findings source declaration kind depth =
      specFindings source declaration (isGroup declaration) (specifications declaration) (valueSpec source kind) := by
  have noTypes : declaration.kind ≠ "type_declaration" := by
    intro types
    rw [types] at isDeclaration
    exact absurd isDeclaration (by decide)
  have specs : specifications declaration = valueSpecs declaration := by
    rw [specifications, if_neg noTypes, valueSpecs_eq]
  have group : isGroup declaration = (declaration.hasChild "(" ||
      declaration.namedChildren.any (·.kind == "var_spec_list") || decide (1 < (valueSpecs declaration).length)) := by
    rw [isGroup, specs, bne_iff_ne.mpr noTypes, Bool.true_and, Bool.or_right_comm]
  rw [specs, group]
  simp only [List.mem_cons, List.not_mem_nil, or_false] at isDeclaration
  rcases isDeclaration with is | is <;> simp only [go, findings, is, valueDeclaration]

theorem specFindings_getElem? (source : Source) (cursor : Cursor) (grouped : Bool) (specs : List Cursor)
    (make : Cursor → Cursor → Option String → Finding) (position : Nat) :
    (specFindings source cursor grouped specs make)[position]? = specs[position]?.map fun spec =>
      make spec (if grouped then spec else cursor)
        (if position = 0 then leadingDocumentation source (if grouped then source.documentation? cursor else none) spec
          else none) := by
  cases specs with
  | nil => rfl
  | cons first rest =>
      cases position with
      | zero => rfl
      | succ position => simp [specFindings, documented, Function.comp_def]

def limitsText : ByteArray :=
  "// Limits\nvar (\n\t// low\n\ta, b int\n\tc = 1\n)\nconst d, e = 2, 3\n".toUTF8

def limitsSource : Source :=
  Document.source .go limitsText limitsText

-- The comma between constants is labelled as a name, the comma between variables is not.
def limitsTree : Node :=
  .plain "source_file" none 0 61
    [{ Node.plain "comment" none 0 9 [] with extra := true },
      .plain "var_declaration" none 10 42
        [token "var" 10,
          .plain "var_spec_list" none 14 42
            [token "(" 14,
              { Node.plain "comment" none 17 23 [] with extra := true },
              .plain "var_spec" none 25 33
                [.plain "identifier" (some "name") 25 26 [], token "," 26, .plain "identifier" (some "name") 28 29 [],
                  .plain "type_identifier" (some "type") 30 33 []],
              .plain "var_spec" none 35 40
                [.plain "identifier" (some "name") 35 36 [], token "=" 37,
                  .plain "expression_list" (some "value") 39 40 [.plain "int_literal" none 39 40 []]],
              token ")" 41]],
      .plain "const_declaration" none 43 60
        [token "const" 43,
          .plain "const_spec" none 49 60
            [.plain "identifier" (some "name") 49 50 [], { token "," 50 with label := some "name" },
              .plain "identifier" (some "name") 52 53 [], token "=" 54,
              .plain "expression_list" (some "value") 56 60
                [.plain "int_literal" none 56 57 [], token "," 57, .plain "int_literal" none 59 60 []]]]]

def limitsDeclaration (kind : String) : Cursor :=
  ((Cursor.root limitsTree).childOfKind? kind).getD default

def bearsName (cursor : Cursor) : Bool :=
  cursor.node.label == some "name"

inductive Separated : List Cursor → List Cursor → List Cursor → Prop where
  | last {name : Cursor} (isIdentifier : name.kind = "identifier") (labelled : bearsName name) :
      Separated [name] [] [name]
  | comma {name comma : Cursor} {names commas run : List Cursor} (isIdentifier : name.kind = "identifier")
      (labelled : bearsName name) (isComma : comma.kind = ",") (rest : Separated names commas run) :
      Separated (name :: names) (comma :: commas) (name :: comma :: run)

def DeclaresNames (spec : Cursor) (names commas : List Cursor) : Prop :=
  ∃ among : Cursor → Bool, Separated names commas (spec.children.filter among) ∧
    ∀ child ∈ spec.children, bearsName child → among child

def keyword (declaration : Cursor) : String :=
  if declaration.kind = "const_declaration" then "const" else "var"

def specTail (source : Source) (spec : Cursor) : String :=
  (Piece.fieldAfter " " spec "type").text source ++ (Piece.excerpt " = " (shownValue source spec) "").text source

-- Blanks at the end of a list that nothing follows are lost.
def specLine (word list tail : String) : String :=
  if tail = "" then Text.trimEndWhile Text.isBlank (word ++ " " ++ list) else word ++ " " ++ list ++ tail

namespace Separated

variable {names commas run : List Cursor}

theorem head_labelled (separated : Separated names commas run) :
    ∃ name, names.head? = some name ∧ (run.filter bearsName).head? = some name := by
  cases separated with
  | last _ labelled => exact ⟨_, rfl, by rw [List.filter_cons_of_pos labelled, List.head?_cons]⟩
  | comma _ labelled _ _ => exact ⟨_, rfl, by rw [List.filter_cons_of_pos labelled, List.head?_cons]⟩

theorem labelled_of_bare (separated : Separated names commas run) (bare : ∀ comma ∈ commas, bearsName comma = false) :
    run.filter bearsName = names := by
  induction separated with
  | last _ labelled => rw [List.filter_cons_of_pos labelled, List.filter_nil]
  | comma _ labelled _ _ ih =>
      obtain ⟨first, others⟩ := List.forall_mem_cons.mp bare
      rw [List.filter_cons_of_pos labelled, List.filter_cons_of_neg (Bool.eq_false_iff.mp first), ih others]

theorem labelled_of_all (separated : Separated names commas run) (all : ∀ comma ∈ commas, bearsName comma) :
    run.filter bearsName = run := by
  induction separated with
  | last _ labelled => rw [List.filter_cons_of_pos labelled, List.filter_nil]
  | comma _ labelled _ _ ih =>
      obtain ⟨first, others⟩ := List.forall_mem_cons.mp all
      rw [List.filter_cons_of_pos labelled, List.filter_cons_of_pos first, ih others]

theorem ne_nil (separated : Separated names commas run) : names ≠ [] ∧ run ≠ [] := by
  cases separated <;> exact ⟨List.cons_ne_nil _ _, List.cons_ne_nil _ _⟩

-- A comma that is listed among the names has the sign of the list on either side.
theorem intercalate_run {text : Cursor → String} (separated : Separated names commas run)
    (spelled : ∀ comma ∈ commas, text comma = ",") :
    String.intercalate ", " (run.map text) = String.intercalate ", ,, " (names.map text) := by
  induction separated with
  | last _ _ => rfl
  | comma _ _ _ rest ih =>
      obtain ⟨first, others⟩ := List.forall_mem_cons.mp spelled
      obtain ⟨moreNames, longer⟩ := rest.ne_nil
      have sign : ", ,, " = ", " ++ ("," ++ ", ") := rfl
      rw [List.map_cons, List.map_cons, List.map_cons, String.intercalate_cons_cons,
        String.intercalate_cons_of_ne_nil (mt List.map_eq_nil_iff.mp longer),
        String.intercalate_cons_of_ne_nil (mt List.map_eq_nil_iff.mp moreNames), ih others, first, sign]
      simp only [String.append_assoc]

end Separated

theorem labelled_of_declares {spec : Cursor} {names commas : List Cursor} (declares : DeclaresNames spec names commas) :
    ∃ run, Separated names commas run ∧ spec.labelled "name" = run.filter bearsName := by
  obtain ⟨among, separated, only⟩ := declares
  refine ⟨_, separated, ?_⟩
  rw [List.filter_filter]
  refine List.filter_congr fun child member => ?_
  by_cases labelled : bearsName child
  · rw [labelled, only child member labelled]
    exact labelled
  · rw [Bool.eq_false_iff.mpr labelled]
    exact Bool.eq_false_iff.mpr labelled

theorem trimEndWhile_excerpt (source : Source) (lead : String) (node : Option Cursor) :
    Text.trimEndWhile Text.isBlank ((Piece.excerpt lead node "").text source) =
      (Piece.excerpt lead node "").text source := by
  cases node with
  | none => rfl
  | some node =>
      rw [Piece.text]
      by_cases empty : source.trimmed node = ""
      · rw [if_pos empty]
        rfl
      · have tight : Text.trimEndWhile Text.isBlank (source.trimmed node) = source.trimmed node :=
          Text.trimEndWhile_trim _
        rw [if_neg empty, String.append_empty, Text.trimEndWhile_append (by rwa [tight]), tight]

theorem trimEndWhile_specTail (source : Source) (spec : Cursor) :
    Text.trimEndWhile Text.isBlank (specTail source spec) = specTail source spec := by
  have type := trimEndWhile_excerpt source " " (spec.field? "type")
  have value := trimEndWhile_excerpt source " = " (shownValue source spec)
  rw [specTail, Piece.fieldAfter]
  by_cases none : (Piece.excerpt " = " (shownValue source spec) "").text source = ""
  · rw [none, String.append_empty, type]
  · rw [Text.trimEndWhile_append (by rwa [value]), value]

theorem trim_specLine {word tail : String} (begins : Text.beginsFilled word)
    (tight : Text.trimEndWhile Text.isBlank tail = tail) (list : String) :
    Text.trim (word ++ " " ++ list ++ tail) = specLine word list tail := by
  rw [String.append_assoc, String.append_assoc, Text.trim_of_beginsFilled begins, ← String.append_assoc,
    ← String.append_assoc, specLine]
  by_cases none : tail = ""
  · rw [if_pos none, none, String.append_empty]
  · rw [if_neg none, Text.trimEndWhile_append (by rwa [tight]), tight]

theorem valueSpec_signature (verbatim : source.spacing = .verbatim) (kind : Kind) (spec place : Cursor)
    (documentation : Option String) :
    (valueSpec source kind spec place documentation).declaration.signature =
      specLine (if kind = .const then "const" else "var")
        (String.intercalate ", " ((spec.labelled "name").map source.text)) (specTail source spec) := by
  generalize listIs : String.intercalate ", " ((spec.labelled "name").map source.text) = list
  generalize wordIs : (if kind = .const then "const" else "var") = word
  have filled : Text.beginsFilled word ∧ Text.trim word ≠ "" := by
    rw [← wordIs]
    split <;> decide
  have shown : source.signature [.word word, .word " ", .word list, .fieldAfter " " spec "type",
      .excerpt " = " (shownValue source spec) ""] = Text.trim (word ++ " " ++ list ++ specTail source spec) := by
    simp [Source.signature, verbatim, Spacing.apply, Piece.text, specTail, String.append_assoc]
  have notEmpty : Text.trim (word ++ " " ++ list ++ specTail source spec) ≠ "" := by
    rw [String.append_assoc, String.append_assoc]
    exact Text.trim_append_ne_empty filled.2 _
  rw [← trim_specLine filled.1 (trimEndWhile_specTail source spec)]
  simp [valueSpec, Source.leaf, Source.declare, wordIs, listIs, shown, notEmpty, Option.filter]

theorem role_of_values (source : Source) (isDeclaration : declaration.kind ∈ ["const_declaration", "var_declaration"]) :
    ∃ kind, go.role source declaration = .declares kind ∧
      (if kind = .const then "const" else "var") = keyword declaration := by
  simp only [List.mem_cons, List.not_mem_nil, or_false] at isDeclaration
  rcases isDeclaration with is | is
  · have code : declaration.isComment = false := (Cursor.isComment_of_kind is).trans (by decide)
    exact ⟨.const, by simp [go, role, code, is], by simp [keyword, is]⟩
  · have code : declaration.isComment = false := (Cursor.isComment_of_kind is).trans (by decide)
    exact ⟨.var, by simp [go, role, code, is], by simp [keyword, is]⟩

/-- Commas of a specification that are labelled as names are listed as names too. -/
theorem specs_list_names_and_labelled_commas (parsed content : ByteArray) {declaration spec : Cursor}
    {names commas : List Cursor} {position : Nat}
    (isDeclaration : declaration.kind ∈ ["const_declaration", "var_declaration"])
    (isSpec : (specifications declaration)[position]? = some spec) (declares : DeclaresNames spec names commas)
    (depth : Nat) :
    let source := Document.source .go parsed content
    ∃ kind finding name, go.role source declaration = .declares kind ∧
      (go.findings source declaration kind depth)[position]? = some finding ∧
      names.head? = some name ∧ finding.declaration.name = source.text name ∧
      ((∀ comma ∈ commas, bearsName comma = false) →
        finding.declaration.signature = specLine (keyword declaration)
          (String.intercalate ", " (names.map source.text)) (specTail source spec)) ∧
      ((∀ comma ∈ commas, bearsName comma ∧ source.text comma = ",") →
        finding.declaration.signature = specLine (keyword declaration)
          (String.intercalate ", ,, " (names.map source.text)) (specTail source spec)) := by
  intro source
  obtain ⟨kind, declared, word⟩ := role_of_values source isDeclaration
  obtain ⟨run, separated, labelled⟩ := labelled_of_declares declares
  obtain ⟨name, first, firstLabelled⟩ := separated.head_labelled
  have made := specFindings_getElem? source declaration (isGroup declaration) (specifications declaration)
    (valueSpec source kind) position
  rw [← findings_of_values isDeclaration source kind depth, isSpec, Option.map_some] at made
  refine ⟨kind, _, name, declared, made, first, ?_, fun bare => ?_, fun all => ?_⟩
  · rw [(valueSpec_madeAt source kind).name, firstName, labelled, firstLabelled]
    rfl
  · rw [valueSpec_signature rfl, word, labelled, separated.labelled_of_bare bare]
  · rw [valueSpec_signature rfl, word, labelled, separated.labelled_of_all fun comma member => (all comma member).1,
      separated.intercalate_run fun comma member => (all comma member).2]

theorem limitsTree_lists_names :
    ∃ spec names commas, (specifications (limitsDeclaration "var_declaration"))[0]? = some spec ∧
      DeclaresNames spec names commas ∧ names.map limitsSource.text = ["a", "b"] ∧
      ∃ kind finding, go.role limitsSource (limitsDeclaration "var_declaration") = .declares kind ∧
        (go.findings limitsSource (limitsDeclaration "var_declaration") kind 0)[0]? = some finding ∧
        finding.declaration.name = "a" ∧ finding.declaration.signature = "var a, b int" := by
  obtain ⟨spec, name, comma, names, isSpec, declares, bare, spelled, tail⟩ : ∃ spec name comma names,
      (specifications (limitsDeclaration "var_declaration"))[0]? = some spec ∧
      DeclaresNames spec (name :: names) [comma] ∧ bearsName comma = false ∧
      (name :: names).map limitsSource.text = ["a", "b"] ∧ specTail limitsSource spec = " int" :=
    ⟨_, _, _, _, rfl, ⟨fun child => bearsName child || child.kind == ",", .comma rfl rfl rfl (.last rfl rfl),
      fun _ _ labelled => Bool.or_eq_true_iff.mpr (.inl labelled)⟩, rfl, by decide +kernel, by decide +kernel⟩
  have isDeclaration : (limitsDeclaration "var_declaration").kind ∈ ["const_declaration", "var_declaration"] := by decide
  obtain ⟨kind, finding, first, role, made, head, named, listed, _⟩ :=
    specs_list_names_and_labelled_commas limitsText limitsText isDeclaration isSpec declares 0
  refine ⟨spec, name :: names, [comma], isSpec, declares, spelled, kind, finding, role, made, ?_, ?_⟩
  · cases head
    exact named.trans (List.cons.inj spelled).1
  · have written : finding.declaration.signature = specLine (keyword (limitsDeclaration "var_declaration"))
        (String.intercalate ", " ((name :: names).map limitsSource.text)) (specTail limitsSource spec) :=
      listed (List.forall_mem_singleton.mpr bare)
    rw [written, spelled, tail]
    decide

theorem limitsTree_lists_comma :
    ∃ spec names commas, (specifications (limitsDeclaration "const_declaration"))[0]? = some spec ∧
      DeclaresNames spec names commas ∧ names.map limitsSource.text = ["d", "e"] ∧
      specLine (keyword (limitsDeclaration "const_declaration")) (String.intercalate ", " ["d", "e"])
        (specTail limitsSource spec) = "const d, e = 2, 3" ∧
      go.role limitsSource (limitsDeclaration "const_declaration") = .declares .const ∧
      (go.findings limitsSource (limitsDeclaration "const_declaration") .const 0).map (·.declaration.signature) =
        ["const d, ,, e = 2, 3"] :=
  ⟨_, _, _, rfl, ⟨bearsName, .comma rfl rfl rfl (.last rfl rfl), fun _ _ labelled => labelled⟩, by decide +kernel,
    by decide +kernel, by decide +kernel, by decide +kernel⟩

end Grammar.Go

end CodeOutline
