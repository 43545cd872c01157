import CodeOutline.Document
import CodeOutline.Proofs.Walk
import Mathlib.Data.List.Basic

set_option autoImplicit false

namespace CodeOutline

def Declaration.isPrivate (declaration : Declaration) : Bool :=
  [Kind.function, .method, .classType].contains declaration.kind && declaration.name.toList.head? == some '_'

theorem Declaration.shows_hideUnderscore (declaration : Declaration) :
    Visibility.hideUnderscore.shows declaration.kind declaration.name = !declaration.isPrivate := by
  have lead : Text.startsWith declaration.name "_" = (declaration.name.toList.head? == some '_') := by
    rw [Text.startsWith, show "_".toList = ['_'] from rfl]
    cases declaration.name.toList with
    | nil => rfl
    | cons c rest => simp [List.isPrefixOf, BEq.comm]
  rw [Visibility.shows, isPrivate, lead]
  cases declaration.kind <;> rfl

namespace Symbol

mutual
def prune : List Symbol → List Symbol
  | [] => []
  | symbol :: rest => if symbol.isPrivate then prune rest else symbol.pruned :: prune rest
def pruned : Symbol → Symbol
  | ⟨declaration, children⟩ => ⟨declaration, prune children⟩
end

theorem pruned_eq (symbol : Symbol) : symbol.pruned = ⟨symbol.toDeclaration, prune symbol.children⟩ := by
  cases symbol
  rw [pruned]

@[simp] theorem children_pruned (symbol : Symbol) : symbol.pruned.children = prune symbol.children := by
  rw [pruned_eq]

@[simp] theorem toDeclaration_pruned (symbol : Symbol) : symbol.pruned.toDeclaration = symbol.toDeclaration := by
  rw [pruned_eq]

theorem prune_eq (symbols : List Symbol) :
    prune symbols = (symbols.filter fun symbol => !symbol.isPrivate).map pruned := by
  induction symbols with
  | nil => rfl
  | cons symbol rest ih =>
      rw [prune, ih]
      cases hidden : symbol.isPrivate <;> simp [hidden]

theorem prune_flatMap {α : Type} (items : List α) (symbolsOf : α → List Symbol) :
    prune (items.flatMap symbolsOf) = items.flatMap fun item => prune (symbolsOf item) := by
  simp only [prune_eq, List.filter_flatMap, List.map_flatMap]

theorem mem_prune {symbols : List Symbol} {symbol : Symbol} :
    symbol ∈ prune symbols ↔ ∃ origin ∈ symbols, origin.isPrivate = false ∧ origin.pruned = symbol := by
  simp [prune_eq, and_assoc]

inductive Lineage : List Symbol → List Symbol → Symbol → Prop where
  | top {symbols : List Symbol} {symbol : Symbol} (member : symbol ∈ symbols) : Lineage symbols [] symbol
  | inside {symbols ancestors : List Symbol} {parent symbol : Symbol} (member : parent ∈ symbols)
      (rest : Lineage parent.children ancestors symbol) : Lineage symbols (parent :: ancestors) symbol

theorem Lineage.prune {symbols ancestors : List Symbol} {symbol : Symbol} (lineage : Lineage symbols ancestors symbol)
    (visible : ∀ other ∈ symbol :: ancestors, other.isPrivate = false) :
    Lineage (prune symbols) (ancestors.map pruned) symbol.pruned := by
  induction lineage with
  | top member => exact .top (mem_prune.mpr ⟨_, member, visible _ List.mem_cons_self, rfl⟩)
  | @inside symbols ancestors parent symbol member _ ih =>
      have parentVisible := visible parent (List.mem_cons_of_mem _ List.mem_cons_self)
      refine .inside (mem_prune.mpr ⟨parent, member, parentVisible, rfl⟩) ?_
      rw [children_pruned]
      exact ih fun other among => visible other (by grind)

theorem Lineage.visible_of_prune {symbols forest ancestors : List Symbol} {symbol : Symbol}
    (lineage : Lineage forest ancestors symbol) (pruning : forest = Symbol.prune symbols) :
    symbol.isPrivate = false := by
  induction lineage generalizing symbols with
  | top member =>
      rw [pruning] at member
      obtain ⟨origin, _, visible, rfl⟩ := mem_prune.mp member
      rwa [toDeclaration_pruned]
  | inside member _ ih =>
      rw [pruning] at member
      obtain ⟨origin, _, _, rfl⟩ := mem_prune.mp member
      exact ih (children_pruned origin)

end Symbol

namespace Grammar

variable {grammar : Grammar} {source : Source}

theorem complete_hideUnderscore {depth : Nat} {finding : Finding}
    (below : ∀ members, finding.members = some members →
      grammar.symbolsIn source .hideUnderscore (depth + 1) members =
        Symbol.prune (grammar.symbolsIn source .everything (depth + 1) members)) :
    grammar.complete source .hideUnderscore depth finding =
      (grammar.complete source .everything depth finding).pruned := by
  rw [Symbol.pruned_eq]
  cases found : finding.members with
  | none => simp [complete, found, Symbol.prune]
  | some members => simp [complete, found, below members found]

theorem symbolsIn_hideUnderscore (grammar : Grammar) (source : Source) (depth : Nat) (parent : Cursor) :
    grammar.symbolsIn source .hideUnderscore depth parent =
      Symbol.prune (grammar.symbolsIn source .everything depth parent) := by
  induction depth, parent using walk_induction grammar source with
  | step depth parent entered nested =>
      rw [symbolsIn_eq, symbolsIn_eq, Symbol.prune_flatMap]
      refine List.flatMap_congr fun child member => ?_
      cases role : grammar.role source child with
      | skip =>
          rw [symbolsAt_of_skip role, symbolsAt_of_skip role, Symbol.prune]
      | enter =>
          rw [symbolsAt_of_enter role, symbolsAt_of_enter role]
          exact entered child member role
      | declares kind =>
          -- Both walks find the same here, and the one that hides drops what pruning drops.
          rw [symbolsAt_of_declares role, symbolsAt_of_shown role, Symbol.prune_eq, List.filter_map, List.map_map]
          simp only [Declaration.shows_hideUnderscore]
          refine List.map_congr_left fun finding shown => ?_
          have made := (List.mem_filter.mp shown).1
          exact complete_hideUnderscore fun members found =>
            nested child member kind role finding made members found

end Grammar

namespace Document

def everySymbol (language : Language) (parsed content : ByteArray) (tree : Node) : List Symbol :=
  language.grammar.symbolsIn (source language parsed content) .everything 0 (.root tree)

/-- A Python document is what pruning leaves of all symbols of the tree. -/
theorem extract_prunes_private {tag : String} (supported : Language.ofTag? tag = some .python)
    (parsed content : ByteArray) (tree : Node) :
    ∃ document, extract tag parsed content tree = .ok document ∧
      document.symbols = Symbol.prune (everySymbol .python parsed content tree) ∧
      (∀ ancestors symbol, Symbol.Lineage document.symbols ancestors symbol → symbol.isPrivate = false) ∧
      ∀ ancestors symbol, Symbol.Lineage (everySymbol .python parsed content tree) ancestors symbol →
        (∀ other ∈ symbol :: ancestors, other.isPrivate = false) →
        Symbol.Lineage document.symbols (ancestors.map Symbol.pruned) symbol.pruned := by
  have pruning : (ofTree .python parsed content tree).symbols =
      Symbol.prune (everySymbol .python parsed content tree) :=
    Grammar.symbolsIn_hideUnderscore .python (source .python parsed content) 0 (.root tree)
  refine ⟨_, extract_of_tag supported parsed content tree, pruning, ?_, ?_⟩
  · intro ancestors symbol lineage
    exact lineage.visible_of_prune pruning
  · intro ancestors symbol lineage visible
    rw [pruning]
    exact lineage.prune visible

def twoClassesText : ByteArray :=
  "class A:\n    def _f(self): pass\n    def g(self): pass\nclass _B:\n    def h(self): pass\n".toUTF8

def pythonMethod (start : Nat) (nameStop : Nat) : Node :=
  .plain "function_definition" none start (nameStop + 12)
    [.plain "identifier" (some "name") (start + 4) nameStop [],
      .plain "parameters" (some "parameters") nameStop (nameStop + 6) [],
      .plain "block" (some "body") (nameStop + 8) (nameStop + 12)
        [.plain "pass_statement" none (nameStop + 8) (nameStop + 12) []]]

def twoClasses : Node :=
  .plain "module" none 0 86
    [.plain "class_definition" none 0 53
      [.plain "identifier" (some "name") 6 7 [],
        .plain "block" (some "body") 13 53 [pythonMethod 13 19, pythonMethod 36 41]],
      .plain "class_definition" none 54 85
        [.plain "identifier" (some "name") 60 62 [], .plain "block" (some "body") 68 85 [pythonMethod 68 73]]]

theorem twoClasses_prunes_private :
    Symbol.countAll (everySymbol .python twoClassesText twoClassesText twoClasses) = 5 ∧
    (ofTree .python twoClassesText twoClassesText twoClasses).count = 2 ∧
    ∃ document, extract "py" twoClassesText twoClassesText twoClasses = .ok document ∧
      document.symbols = Symbol.prune (everySymbol .python twoClassesText twoClassesText twoClasses) ∧
      (∀ ancestors symbol, Symbol.Lineage document.symbols ancestors symbol → symbol.isPrivate = false) ∧
      ∀ ancestors symbol, Symbol.Lineage (everySymbol .python twoClassesText twoClassesText twoClasses) ancestors symbol →
        (∀ other ∈ symbol :: ancestors, other.isPrivate = false) →
        Symbol.Lineage document.symbols (ancestors.map Symbol.pruned) symbol.pruned := by
  have supported : Language.ofTag? "py" = some .python := by decide
  exact ⟨by decide +kernel, by decide +kernel, extract_prunes_private supported twoClassesText twoClassesText twoClasses⟩

end Document

end CodeOutline
