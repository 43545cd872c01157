import CodeOutline.Proofs.Locality

set_option autoImplicit false

namespace CodeOutline

namespace Node

def enclose : List Shape → List Node → List Node
  | [], children => children
  | shape :: inner, children => [⟨shape, enclose inner children⟩]

-- The tree with a chain of nodes between its root and the children of the root. Labels that the root redirects
-- may lead along other paths then.
def enclosed (root : Node) (chain : List Shape) (redirects : List (String × List Nat)) : Node :=
  { root with redirects := redirects, children := enclose chain root.children }

end Node

structure Shape.Unreadable (shape : Shape) : Prop where
  kind : shape.kind = "ERROR"
  named : shape.named = true

theorem Context.alike_of_unasked {first second : Node} {above beyond : Context} (unasked : first.kind ∉ parentKinds)
    (unaskedToo : second.kind ∉ parentKinds) (before : List Node) :
    Alike (.under first above before) (.under second beyond before) := by
  have other : ∀ {parent : Node}, parent.kind ∉ parentKinds → ∀ kind ∈ parentKinds, parent.kind ≠ kind :=
    fun missing kind asked same => missing (same ▸ asked)
  have outside : ∀ {parent : Node} {place : Context} (node : Node), parent.kind ∉ parentKinds →
      ∀ kind ∈ parentKinds, Cursor.isUnder ⟨node, .under parent place before⟩ kind = false := by
    intro parent place node missing kind asked
    simpa [Cursor.isUnder, Cursor.parent?, Cursor.kind] using other missing kind asked
  have memberless : ∀ {parent : Node} {place : Context} (node : Node), parent.kind ∉ parentKinds →
      Grammar.Cpp.isClassMember ⟨node, .under parent place before⟩ = false := by
    intro parent place node missing
    have template := other missing "template_declaration" (by decide)
    have list := other missing "field_declaration_list" (by decide)
    simp [Grammar.Cpp.isClassMember, Cursor.parent?, Cursor.kind, template, list]
  exact {
    documentation := fun _ _ => rfl
    under := fun kind asked node => (outside node unasked kind asked).trans (outside node unaskedToo kind asked).symm
    classMember := fun node => (memberless node unasked).trans (memberless node unaskedToo).symm
    undecorated := fun node => outside node unasked _ (by decide) }

namespace Grammar

theorem role_of_unreadable (language : Language) (source : Source) {cursor : Cursor} (kind : cursor.kind = "ERROR") :
    language.grammar.role source cursor = .enter := by
  have code : cursor.isComment = false := (Cursor.isComment_of_kind kind).trans (by decide)
  cases language with
  | go =>
      change Go.role source cursor = .enter
      rw [Go.role, code, kind]
      rfl
  | python =>
      change Python.role source cursor = .enter
      rw [Python.role, code, kind]
      rfl
  | java =>
      change Java.role source cursor = .enter
      rw [Java.role, code, kind]
      rfl
  | javaScript =>
      change JavaScript.role source cursor = .enter
      rw [JavaScript.role, code, kind]
      rfl
  | typeScript | tsx =>
      change TypeScript.role source cursor = .enter
      rw [TypeScript.role, kind, JavaScript.role, code, kind]
      rfl
  | swift =>
      change Swift.role source cursor = .enter
      rw [Swift.role, code, kind]
      rfl
  | c =>
      change C.role source cursor = .enter
      rw [C.role, code, kind]
      rfl
  | cpp =>
      change Cpp.role source cursor = .enter
      rw [Cpp.role, kind, C.role, code, kind]
      rfl

variable (language : Language) (source : Source) (visibility : Visibility) (depth : Nat)

theorem symbolsIn_of_same_children {parent other : Cursor} (unasked : parent.kind ∉ parentKinds)
    (unaskedToo : other.kind ∉ parentKinds) (same : parent.node.children = other.node.children) :
    language.grammar.symbolsIn source visibility depth parent =
      language.grammar.symbolsIn source visibility depth other := by
  have places : ∀ left right : List Node, left = right →
      (Context.under parent.node parent.context left).Alike (.under other.node other.context right) := by
    rintro before _ rfl
    exact Context.alike_of_unasked unasked unaskedToo before
  have among := symbolsAmong_of_alike language source visibility depth (· = ·) places
    (fun _ _ sibling same => congrArg (sibling :: ·) same) (Eq.refl []) parent.node.children
  rw [symbolsIn_eq, symbolsIn_eq]
  rw [Cursor.namedChildren, Cursor.namedChildren, Cursor.children, Cursor.children, ← same]
  exact among

theorem symbolsIn_of_enclosed {chain : List Shape} (unreadable : ∀ shape ∈ chain, shape.Unreadable)
    {parent root : Cursor} (unasked : parent.kind ∉ parentKinds) (unaskedToo : root.kind ∉ parentKinds)
    (around : parent.node.children = Node.enclose chain root.node.children) :
    language.grammar.symbolsIn source visibility depth parent =
      language.grammar.symbolsIn source visibility depth root := by
  induction chain generalizing parent with
  | nil => exact symbolsIn_of_same_children language source visibility depth unasked unaskedToo around
  | cons shape inner ih =>
      obtain ⟨kind, named⟩ := unreadable shape List.mem_cons_self
      let only : Cursor := ⟨⟨shape, Node.enclose inner root.node.children⟩, .under parent.node parent.context []⟩
      have single : parent.namedChildren = [only] := by
        rw [Cursor.namedChildren, Cursor.children, around]
        exact List.filter_cons_of_pos named
      have entered : language.grammar.role source only = .enter := role_of_unreadable language source kind
      have onlyUnasked : only.kind ∉ parentKinds := by
        rw [show only.kind = "ERROR" from kind]
        decide
      rw [symbolsIn_eq, single, List.flatMap_singleton, symbolsAt_of_enter entered]
      exact ih (fun other member => unreadable other (List.mem_cons_of_mem _ member)) onlyUnasked rfl

end Grammar

namespace Document

/-- Nodes over unreadable text around the children of the root change nothing in the document. -/
theorem extract_through_unreadable (tag : String) (parsed content : ByteArray) {root : Node}
    (unasked : root.kind ∉ parentKinds) {chain : List Shape} (unreadable : ∀ shape ∈ chain, shape.Unreadable)
    (redirects : List (String × List Nat)) :
    extract tag parsed content (root.enclosed chain redirects) = extract tag parsed content root := by
  have same : ∀ language, ofTree language parsed content (root.enclosed chain redirects) =
      ofTree language parsed content root := by
    intro language
    rw [ofTree, ofTree]
    have symbols := Grammar.symbolsIn_of_enclosed language (source language parsed content) language.visibility 0
      unreadable (show (Cursor.root (root.enclosed chain redirects)).kind ∉ parentKinds from unasked)
      (show (Cursor.root root).kind ∉ parentKinds from unasked) rfl
    rw [symbols]
  simp only [extract, same]

def decoratedText : ByteArray :=
  "# note\n@d\ndef f(): pass\n".toUTF8

def decoratedTree : Node :=
  .plain "module" none 0 24
    [.plain "comment" none 0 6 [],
      .plain "decorated_definition" none 7 23
        [.plain "decorator" none 7 9 [],
          .plain "function_definition" (some "definition") 10 23
            [.plain "identifier" (some "name") 14 15 [],
              .plain "parameters" (some "parameters") 15 17 [],
              .plain "block" (some "body") 19 23 [.plain "pass_statement" none 19 23 []]]]]

def unreadableShape (start stop : Nat) : Shape :=
  { (Node.plain "ERROR" none start stop []).toShape with isError := true, hasError := true }

theorem decoratedTree_through_unreadable :
    decoratedTree.kind ∉ parentKinds ∧
    (∀ shape ∈ [unreadableShape 0 24, unreadableShape 0 23], shape.Unreadable) ∧
    (ofTree .python decoratedText decoratedText decoratedTree).symbols.map
      (fun symbol => (symbol.name, symbol.kind, symbol.documentation, symbol.decorators)) =
      [("f", .function, some "# note", ["@d"])] ∧
    extract "python" decoratedText decoratedText
        (decoratedTree.enclosed [unreadableShape 0 24, unreadableShape 0 23] []) =
      extract "python" decoratedText decoratedText decoratedTree := by
  have unasked : decoratedTree.kind ∉ parentKinds := by decide
  have unreadable : ∀ shape ∈ [unreadableShape 0 24, unreadableShape 0 23], shape.Unreadable := by
    intro shape member
    rw [List.mem_pair] at member
    rcases member with rfl | rfl <;> exact ⟨rfl, rfl⟩
  refine ⟨unasked, unreadable, by decide +kernel, ?_⟩
  exact extract_through_unreadable "python" decoratedText decoratedText unasked unreadable []

end Document

end CodeOutline
