import CodeOutline.Proofs.Excerpts
import CodeOutline.Proofs.Trimming

set_option autoImplicit false

namespace CodeOutline

theorem Text.lineFeed_not_mem_linesFrom (current chars : List Char) (plain : '\n' ∉ current) :
    ∀ line ∈ linesFrom current chars, '\n' ∉ line := by
  fun_induction linesFrom current chars with
  | case1 => exact List.forall_mem_nil _
  | case2 current _ => exact List.forall_mem_singleton.mpr (by simpa using plain)
  | case3 current rest ih =>
      refine List.forall_mem_cons.mpr ⟨fun member => ?_, ih List.not_mem_nil⟩
      rw [dropReturn] at member
      split at member
      · exact plain (by simpa using (List.dropLast_sublist _).subset member)
      · exact plain (by simpa using member)
  | case4 current c rest other ih =>
      exact ih fun member => (List.mem_cons.mp member).elim (fun same => other same.symm) plain

theorem Text.lineFeed_not_mem_lines (text : String) : ∀ line ∈ lines text, '\n' ∉ line.toList := by
  intro line member
  obtain ⟨chars, within, rfl⟩ := List.mem_map.mp member
  rw [String.toList_ofList]
  exact lineFeed_not_mem_linesFrom [] text.toList List.not_mem_nil chars within

structure Declaration.Legible (options : Layout.Options) (declaration : Declaration) : Prop where
  signature : '\n' ∉ declaration.signature.toList
  decorators : ∀ decorator ∈ declaration.decorators, decorator ≠ "" ∧ '\n' ∉ decorator.toList
  header : declaration.signature ≠ "" ∨ options.lineNumbers

namespace Layout

-- `fresh` says that a line begins here.
def indentFrom (unit : List Char) (fresh : Bool) : List Char → List Char
  | [] => []
  | c :: rest =>
      if c = '\n' then c :: indentFrom unit true rest
      else (if fresh then unit else []) ++ c :: indentFrom unit false rest

def indent (unit text : String) : String :=
  String.ofList (indentFrom unit.toList true text.toList)

def printAll (style : Style) (lines : List Line) : String :=
  String.join (lines.map (·.print style))

def symbolText (style : Style) (options : Options) (depth : Nat) (symbol : Symbol) : String :=
  printAll style (lines style options depth symbol)

-- The line one level further down; gaps are the same at every level.
def Line.deeper (line : Line) : Line :=
  if line.part = .gap then line else { line with depth := line.depth + 1 }

section Levels

variable (style : Style) (options : Options) (depth : Nat)

theorem leadingLines_succ (declaration : Declaration) :
    leadingLines style options (depth + 1) declaration =
      (leadingLines style options depth declaration).map Line.deeper := by
  simp only [leadingLines, documentationLines, List.map_append, List.map_map]
  congr 1
  split
  · rw [List.map_map]
    rfl
  · rfl

theorem elidedLines_succ (declaration : Declaration) :
    elidedLines style options (depth + 1) declaration =
      (elidedLines style options depth declaration).map Line.deeper := by
  unfold elidedLines
  cases style.elision <;> rfl

theorem blockLines_succ (declaration : Declaration) (members : List Line) :
    blockLines style options (depth + 1) declaration (members.map Line.deeper) =
      (blockLines style options depth declaration members).map Line.deeper := by
  unfold blockLines
  cases style.blocks with
  | braces =>
      simp only [List.cons_append, List.map_cons, List.map_append]
      rfl
  | colon =>
      cases members with
      | nil => rfl
      | cons line rest =>
          simp only [List.map_cons, List.isEmpty_cons, List.cons_append, List.map_append]
          rfl

end Levels

mutual
theorem lines_succ (style : Style) (options : Options) (depth : Nat) (symbol : Symbol) :
    lines style options (depth + 1) symbol = (lines style options depth symbol).map Line.deeper := by
  cases symbol with
  | mk declaration children =>
      rw [lines, lines, List.map_append, leadingLines_succ]
      congr 1
      cases declaration.body with
      | bare => rfl
      | elided => exact elidedLines_succ style options depth declaration
      | members =>
          dsimp only
          rw [allLines_succ style options (depth + 1) children, blockLines_succ]
theorem allLines_succ (style : Style) (options : Options) (depth : Nat) (symbols : List Symbol) :
    allLines style options (depth + 1) symbols = (allLines style options depth symbols).map Line.deeper := by
  cases symbols with
  | nil => rfl
  | cons symbol rest =>
      rw [allLines, allLines, List.map_append, lines_succ style options depth symbol,
        allLines_succ style options depth rest]
end

theorem indentFrom_inside {unit line : List Char} (plain : '\n' ∉ line) (rest : List Char) :
    indentFrom unit false (line ++ '\n' :: rest) = line ++ '\n' :: indentFrom unit true rest := by
  induction line with
  | nil => rfl
  | cons c others ih =>
      have here : c ≠ '\n' := fun same => plain (same ▸ List.mem_cons_self)
      have later : '\n' ∉ others := fun member => plain (List.mem_cons_of_mem _ member)
      simp [indentFrom, here, ih later]

theorem indentFrom_line {unit line : List Char} (plain : '\n' ∉ line) (filled : line ≠ []) (rest : List Char) :
    indentFrom unit true (line ++ '\n' :: rest) = unit ++ line ++ '\n' :: indentFrom unit true rest := by
  cases line with
  | nil => exact absurd rfl filled
  | cons c others =>
      have here : c ≠ '\n' := fun same => plain (same ▸ List.mem_cons_self)
      have later : '\n' ∉ others := fun member => plain (List.mem_cons_of_mem _ member)
      simp [indentFrom, here, indentFrom_inside later]

inductive Line.Tidy : Line → Prop where
  | gap : Tidy Layout.gap
  | filled {line : Line} (part : line.part ≠ .gap) (text : line.text ≠ "") (plain : '\n' ∉ line.text.toList) : Tidy line

theorem indentation_succ (unit : String) (depth : Nat) :
    indentation unit (depth + 1) = unit ++ indentation unit depth := by
  rw [indentation, List.replicate_succ, String.join_cons]
  rfl

theorem indentFrom_print (language : Language) {line : Line} (tidy : line.Tidy) (rest : List Char) :
    indentFrom language.style.unit.toList true ((line.print language.style).toList ++ rest) =
      (line.deeper.print language.style).toList ++ indentFrom language.style.unit.toList true rest := by
  cases tidy with
  | gap => simp [Line.print, Line.deeper, Layout.gap, indentation, indentFrom]
  | filled part text plain =>
      have oneLine : '\n' ∉ (indentation language.style.unit line.depth ++ line.text).toList := by
        simp [plain, lineFeed_not_mem_indentation]
      have notEmpty : (indentation language.style.unit line.depth ++ line.text).toList ≠ [] := by
        simp [text]
      have printed : (line.print language.style).toList ++ rest =
          (indentation language.style.unit line.depth ++ line.text).toList ++ '\n' :: rest := by
        simp [Line.print]
      rw [printed, indentFrom_line oneLine notEmpty]
      simp [Line.print, Line.deeper, part, indentation_succ]

theorem indent_printAll (language : Language) {lines : List Line} (tidy : ∀ line ∈ lines, line.Tidy) :
    indent language.style.unit (printAll language.style lines) =
      printAll language.style (lines.map Line.deeper) := by
  rw [← String.toList_inj, indent, String.toList_ofList]
  induction lines with
  | nil => rfl
  | cons line rest ih =>
      obtain ⟨first, later⟩ := List.forall_mem_cons.mp tidy
      simp only [printAll, List.map_cons, String.join_cons, String.toList_append] at ih ⊢
      rw [indentFrom_print language first, ih later]

theorem commentLine_tidy (language : Language) (depth : Nat) {line : String} (plain : '\n' ∉ line.toList) :
    (⟨.documentation, depth, commentLine language.style line⟩ : Line).Tidy := by
  have marker : language.style.marker ≠ "" ∧ '\n' ∉ language.style.marker.toList := by cases language <;> decide
  have kept : '\n' ∉ (Text.trim line).toList := fun member => plain (Text.mem_of_mem_trim member)
  refine .filled (by simp) ?_ ?_ <;> simp only [commentLine] <;> split
  · exact marker.1
  · split <;> simp [*]
  · exact marker.2
  · split <;> simp [marker.2, kept]

theorem leadingLines_tidy (language : Language) {options : Options} (depth : Nat) {declaration : Declaration}
    (legible : declaration.Legible options) : ∀ line ∈ leadingLines language.style options depth declaration, line.Tidy := by
  refine List.forall_mem_append.mpr ⟨?_, ?_⟩
  · rw [documentationLines]
    split
    · refine List.forall_mem_map.mpr fun line member => commentLine_tidy language depth ?_
      exact Text.lineFeed_not_mem_lines _ line member
    · exact List.forall_mem_nil _
  · refine List.forall_mem_map.mpr fun decorator member => ?_
    obtain ⟨filled, plain⟩ := legible.decorators decorator member
    exact .filled (by simp) filled plain

theorem headerLine_tidy (language : Language) {options : Options} (depth : Nat) {declaration : Declaration}
    (legible : declaration.Legible options) {opening : String} (plain : '\n' ∉ opening.toList) :
    (headerLine language.style options depth declaration opening).Tidy := by
  refine .filled (by simp [headerLine]) ?_ ?_
  · rcases legible.header with signature | numbered
    · simp [headerLine, signature]
    · simp [headerLine, lineRemark, numbered]
  · simp [headerLine, legible.signature, plain, lineFeed_not_mem_lineRemark]

theorem filler_tidy (language : Language) (depth : Nat) {placeholder : String}
    (filler : language.style.elision = .block placeholder ∨ language.style.elision = .suite placeholder) :
    (⟨.filler, depth, placeholder⟩ : Line).Tidy := by
  have text : placeholder ≠ "" ∧ '\n' ∉ placeholder.toList := by
    cases language <;> rcases filler with block | suite <;> cases ‹_ = _› <;> decide
  exact .filled (by simp) text.1 text.2

theorem brace_tidy (depth : Nat) : (⟨.closing, depth, "\x7d"⟩ : Line).Tidy :=
  .filled (by simp) (by simp) (by simp)

theorem elidedLines_tidy (language : Language) {options : Options} (depth : Nat) {declaration : Declaration}
    (legible : declaration.Legible options) : ∀ line ∈ elidedLines language.style options depth declaration, line.Tidy := by
  have header := headerLine_tidy language depth legible (lineFeed_not_mem_opening language .elided)
  unfold elidedLines
  cases elision : language.style.elision with
  | stub text =>
      simp only [opening, elision] at header
      exact List.forall_mem_cons.mpr ⟨header, List.forall_mem_singleton.mpr .gap⟩
  | block placeholder =>
      simp only [opening, elision] at header
      have filler := filler_tidy language (depth + 1) (.inl elision)
      simpa using ⟨header, filler, brace_tidy depth, .gap⟩
  | suite placeholder =>
      simp only [opening, elision] at header
      have filler := filler_tidy language (depth + 1) (.inr elision)
      simpa using ⟨header, filler, .gap⟩

theorem blockLines_tidy (language : Language) {options : Options} (depth : Nat) {declaration : Declaration}
    (legible : declaration.Legible options) {members : List Line} (tidy : ∀ line ∈ members, line.Tidy) :
    ∀ line ∈ blockLines language.style options depth declaration members, line.Tidy := by
  have header := headerLine_tidy language depth legible (lineFeed_not_mem_opening language .members)
  unfold blockLines
  cases blocks : language.style.blocks with
  | braces =>
      simp only [opening, blocks] at header
      refine List.forall_mem_cons.mpr ⟨header, List.forall_mem_append.mpr ⟨tidy, ?_⟩⟩
      simpa using ⟨brace_tidy depth, .gap⟩
  | colon =>
      simp only [opening, blocks] at header
      have inside : ∀ line ∈ if members.isEmpty then [⟨.filler, depth + 1, "pass"⟩] else members, line.Tidy := by
        split
        · exact List.forall_mem_singleton.mpr (.filled (by simp) (by simp) (by simp))
        · exact tidy
      exact List.forall_mem_cons.mpr ⟨header, List.forall_mem_append.mpr ⟨inside, List.forall_mem_singleton.mpr .gap⟩⟩

mutual
theorem lines_tidy (language : Language) {options : Options} (depth : Nat) (symbol : Symbol)
    (legible : ∀ other, Symbol.Among [symbol] other → other.toDeclaration.Legible options) :
    ∀ line ∈ lines language.style options depth symbol, line.Tidy := by
  cases symbol with
  | mk declaration children =>
      have self : declaration.Legible options := legible ⟨declaration, children⟩ (.here List.mem_cons_self)
      rw [lines]
      refine List.forall_mem_append.mpr ⟨leadingLines_tidy language depth self, ?_⟩
      cases declaration.body with
      | bare => exact List.forall_mem_singleton.mpr (headerLine_tidy language depth self (by simp))
      | elided => exact elidedLines_tidy language depth self
      | members =>
          refine blockLines_tidy language depth self (allLines_tidy language (depth + 1) children ?_)
          intro other among
          exact legible other (.inside List.mem_cons_self among)
theorem allLines_tidy (language : Language) {options : Options} (depth : Nat) (symbols : List Symbol)
    (legible : ∀ other, Symbol.Among symbols other → other.toDeclaration.Legible options) :
    ∀ line ∈ allLines language.style options depth symbols, line.Tidy := by
  cases symbols with
  | nil => exact List.forall_mem_nil _
  | cons symbol rest =>
      rw [allLines]
      refine List.forall_mem_append.mpr ⟨lines_tidy language depth symbol ?_, allLines_tidy language depth rest ?_⟩
      · intro other among
        exact legible other (among.mono fun _ member => List.mem_singleton.mp member ▸ List.mem_cons_self)
      · intro other among
        exact legible other (among.mono fun _ member => List.mem_cons_of_mem _ member)
end

theorem printAll_append (style : Style) (first second : List Line) :
    printAll style (first ++ second) = printAll style first ++ printAll style second := by
  simp [printAll]

theorem lines_ne_nil (style : Style) (options : Options) (depth : Nat) (symbol : Symbol) :
    lines style options depth symbol ≠ [] := by
  cases symbol with
  | mk declaration children =>
      rw [lines]
      apply List.append_ne_nil_of_right_ne_nil
      cases declaration.body with
      | bare => exact List.cons_ne_nil _ _
      | elided =>
          unfold elidedLines
          cases style.elision <;> exact List.cons_ne_nil _ _
      | members =>
          unfold blockLines
          cases style.blocks <;> exact List.cons_ne_nil _ _

theorem allLines_eq_nil_iff {style : Style} {options : Options} {depth : Nat} {symbols : List Symbol} :
    allLines style options depth symbols = [] ↔ symbols = [] := by
  cases symbols with
  | nil => simp [allLines]
  | cons symbol rest => simp [allLines, lines_ne_nil]

def blockEnd (style : Style) : String :=
  match style.blocks with
  | .braces => "\x7d\n\n"
  | .colon => "\n"

theorem printAll_blockLines (style : Style) (options : Options) (declaration : Declaration) (members : List Line) :
    printAll style (blockLines style options 0 declaration members) =
      (headerLine style options 0 declaration (opening style .members)).print style ++
      (if style.blocks = .colon ∧ members = [] then style.unit ++ "pass\n" else printAll style members) ++
      blockEnd style := by
  unfold blockLines opening blockEnd
  cases style.blocks with
  | braces => simp [printAll, Line.print, gap, indentation, String.append_assoc]
  | colon => cases members <;> simp [printAll, Line.print, gap, indentation, String.append_assoc]

/-- One level further down, every line that is not empty has one more unit of indentation in front. -/
theorem nesting_is_indentation (language : Language) (options : Options) (symbol : Symbol)
    (legible : ∀ other, Symbol.Among [symbol] other → other.toDeclaration.Legible options) :
    (∀ depth, symbolText language.style options (depth + 1) symbol =
      indent language.style.unit (symbolText language.style options depth symbol)) ∧
    (symbol.body = .members →
      symbolText language.style options 0 symbol =
        printAll language.style (leadingLines language.style options 0 symbol.toDeclaration) ++
          ((headerLine language.style options 0 symbol.toDeclaration (opening language.style .members)).print
              language.style ++
            (if language.style.blocks = .colon ∧ symbol.children = [] then language.style.unit ++ "pass\n"
              else indent language.style.unit (render language.style options symbol.children)) ++
            blockEnd language.style)) := by
  refine ⟨fun depth => ?_, fun isBlock => ?_⟩
  · rw [symbolText, symbolText, lines_succ, indent_printAll language (lines_tidy language depth symbol legible)]
  · obtain ⟨declaration, children⟩ := symbol
    have tidy : ∀ line ∈ allLines language.style options 0 children, line.Tidy :=
      allLines_tidy language 0 children fun other among => legible other (.inside List.mem_cons_self among)
    have inside : printAll language.style (allLines language.style options 1 children) =
        indent language.style.unit (render language.style options children) := by
      rw [allLines_succ, ← indent_printAll language tidy]
      rfl
    dsimp only at isBlock
    rw [symbolText, lines, printAll_append, isBlock]
    dsimp only
    rw [printAll_blockLines, inside]
    simp only [Nat.zero_add, allLines_eq_nil_iff]

def greet : Symbol where
  name := "greet"
  kind := .method
  signature := "def greet(self)"
  documentation := some "Says\n\n# hello"
  startLine := 4
  startColumn := 4
  endLine := 7
  modifiers := []
  decorators := ["@cached"]
  heritage := none
  body := .elided
  children := []

def greeter : Symbol where
  name := "Greeter"
  kind := .classType
  signature := "class Greeter"
  documentation := some "Polite."
  startLine := 1
  startColumn := 0
  endLine := 7
  modifiers := []
  decorators := []
  heritage := none
  body := .members
  children := [greet]

theorem greeter_is_indented :
    (∀ other, Symbol.Among [greeter] other → other.toDeclaration.Legible {}) ∧
    symbolText (Language.style .python) {} 0 greeter =
      "# Polite.\nclass Greeter: # line 1\n    # Says\n    #\n    # hello\n    @cached\n" ++
        "    def greet(self): # line 4\n        ...\n\n\n" ∧
    (∀ depth, symbolText (Language.style .python) {} (depth + 1) greeter =
      indent "    " (symbolText (Language.style .python) {} depth greeter)) ∧
    symbolText (Language.style .python) {} 0 greeter =
      "# Polite.\n" ++ ("class Greeter: # line 1\n" ++ indent "    " (render (Language.style .python) {} [greet]) ++ "\n") := by
  have legible : ∀ other, Symbol.Among [greeter] other → other.toDeclaration.Legible {} := by
    intro other among
    cases among with
    | here member =>
        rw [List.mem_singleton.mp member]
        exact ⟨by decide, by decide, .inr rfl⟩
    | inside member rest =>
        rw [List.mem_singleton.mp member] at rest
        cases rest with
        | here member =>
            rw [List.mem_singleton.mp member]
            exact ⟨by decide, by decide, .inr rfl⟩
        | inside member rest =>
            rw [List.mem_singleton.mp member] at rest
            exact absurd rest Symbol.not_among_nil
  have leading : printAll (Language.style .python) (leadingLines (Language.style .python) {} 0 greeter.toDeclaration) =
      "# Polite.\n" := by decide +kernel
  have header : (headerLine (Language.style .python) {} 0 greeter.toDeclaration
      (opening (Language.style .python) .members)).print (Language.style .python) = "class Greeter: # line 1\n" := by
    decide +kernel
  obtain ⟨deeper, block⟩ := nesting_is_indentation .python {} greeter legible
  refine ⟨legible, by decide +kernel, deeper, ?_⟩
  rw [block rfl, leading, header, if_neg (by simp [greeter])]
  rfl

end Layout

end CodeOutline
