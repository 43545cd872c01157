import CodeOutline.Proofs.Arrangement
import CodeOutline.Proofs.Exports

set_option autoImplicit false

namespace CodeOutline

namespace Node

theorem holdsKind_eq (kind : String) (node : Node) :
    node.holdsKind kind = (node.kind == kind || anyHoldsKind kind node.children) := by
  cases node
  rw [holdsKind]

theorem anyHoldsKind_of_mem {kind : String} {node : Node} {nodes : List Node} (member : node ∈ nodes)
    (holds : node.holdsKind kind) : anyHoldsKind kind nodes := by
  induction nodes with
  | nil => cases member
  | cons head rest ih =>
      rw [anyHoldsKind, Bool.or_eq_true]
      cases member with
      | head => exact .inl holds
      | tail _ later => exact .inr (ih later)

end Node

namespace Cursor

mutual
theorem place_of_holdsKind (kind : String) (node : Node) (context : Context) (holds : node.holdsKind kind) :
    ∃ place, (⟨node, context⟩ : Cursor).Holds place ∧ place.kind = kind := by
  cases node with
  | mk shape children =>
      rw [Node.holdsKind, Bool.or_eq_true] at holds
      rcases holds with same | below
      · exact ⟨_, .here _, eq_of_beq same⟩
      · obtain ⟨child, member, place, inside, is⟩ :=
          place_of_anyHoldsKind kind children ⟨⟨shape, children⟩, context⟩ [] below
        exact ⟨place, .deeper member inside, is⟩
theorem place_of_anyHoldsKind (kind : String) (nodes : List Node) (parent : Cursor) (before : List Node)
    (holds : Node.anyHoldsKind kind nodes) :
    ∃ child ∈ placeAll parent before nodes, ∃ place, child.Holds place ∧ place.kind = kind := by
  cases nodes with
  | nil => cases holds
  | cons node rest =>
      rw [Node.anyHoldsKind, Bool.or_eq_true] at holds
      rcases holds with first | later
      · obtain ⟨place, inside, is⟩ := place_of_holdsKind kind node (.under parent.node parent.context before) first
        exact ⟨_, List.mem_cons_self, place, inside, is⟩
      · obtain ⟨child, member, found⟩ := place_of_anyHoldsKind kind rest parent (node :: before) later
        exact ⟨child, List.mem_cons_of_mem _ member, found⟩
end

theorem Holds.holdsKind {cursor place : Cursor} (holds : cursor.Holds place) : cursor.node.holdsKind place.kind := by
  induction holds with
  | here cursor =>
      rw [Node.holdsKind_eq, Bool.or_eq_true]
      exact .inl (beq_self_eq_true _)
  | @deeper cursor child place member _ ih =>
      rw [Node.holdsKind_eq, Bool.or_eq_true]
      exact .inr (Node.anyHoldsKind_of_mem (node_mem_of_mem_children member) ih)

theorem holdsKind_iff {cursor : Cursor} {kind : String} :
    cursor.node.holdsKind kind ↔ ∃ place, cursor.Holds place ∧ place.kind = kind := by
  constructor
  · exact place_of_holdsKind kind cursor.node cursor.context
  · rintro ⟨place, holds, rfl⟩
    exact holds.holdsKind

end Cursor

namespace Grammar

namespace C

-- The parts of a declarator that say nothing of the declared name: the value of a variable, the size of an array
-- and the parameters of a function.
def asideLabels : List String :=
  ["value", "size", "parameters"]

structure Around (outer inner : Cursor) : Prop where
  wraps : finalKinds.contains outer.kind = false
  next : inner? outer = some inner
  inside : inner.node.label.any asideLabels.contains = false

-- The way from a declarator inwards to the declared name, through `declarators`, the outermost first.
inductive LeadsTo : Cursor → List Cursor → Cursor → Prop where
  | name {name : Cursor} (final : finalKinds.contains name.kind) : LeadsTo name [] name
  | around {outer inner name : Cursor} {declarators : List Cursor} (around : Around outer inner)
      (rest : LeadsTo inner declarators name) : LeadsTo outer (outer :: declarators) name

def innermost? (declarators : List Cursor) : Option Cursor :=
  (declarators.filter (·.kind != "parenthesized_declarator")).getLast?

def RightAround (declarator place : Cursor) : Prop :=
  ∃ declarators name, LeadsTo declarator declarators name ∧ innermost? declarators = some place

def FurtherOut (declarator place : Cursor) : Prop :=
  ∃ declarators name, LeadsTo declarator declarators name ∧ place ∈ declarators ∧ innermost? declarators ≠ some place

def Aside (declarator place : Cursor) : Prop :=
  declarator.Holds place ∧ ∀ declarators name, LeadsTo declarator declarators name → place ∉ declarators

def HasFunction (sort : Cursor → Cursor → Prop) (declaration : Cursor) : Prop :=
  ∃ declarator ∈ declaration.labelled "declarator", ∃ place, sort declarator place ∧ place.kind = "function_declarator"

theorem LeadsTo.holds {declarator name : Cursor} {declarators : List Cursor} (way : LeadsTo declarator declarators name) :
    ∀ place ∈ declarators, declarator.Holds place := by
  induction way with
  | name => exact List.forall_mem_nil _
  | @around outer inner name declarators around _ ih =>
      intro place member
      rcases List.mem_cons.mp member with rfl | later
      · exact .here place
      · exact (holds_of_inner? around.next).trans (ih place later)

theorem LeadsTo.unique {declarator name other : Cursor} {declarators others : List Cursor}
    (way : LeadsTo declarator declarators name) (second : LeadsTo declarator others other) :
    declarators = others ∧ name = other := by
  induction way generalizing others with
  | name final =>
      cases second with
      | name => exact ⟨rfl, rfl⟩
      | around around => exact absurd final (Bool.eq_false_iff.mp around.wraps)
  | around around _ ih =>
      cases second with
      | name final => exact absurd final (Bool.eq_false_iff.mp around.wraps)
      | around aroundToo rest =>
          cases Option.some.inj (around.next.symm.trans aroundToo.next)
          obtain ⟨same, sameName⟩ := ih rest
          exact ⟨congrArg _ same, sameName⟩

theorem mem_of_innermost? {declarators : List Cursor} {place : Cursor} (found : innermost? declarators = some place) :
    place ∈ declarators :=
  (List.mem_filter.mp (List.mem_of_getLast? found)).1

theorem hasFunctionDeclarator_iff {declaration : Cursor} :
    hasFunctionDeclarator declaration ↔ HasFunction Cursor.Holds declaration := by
  rw [hasFunctionDeclarator, List.any_eq_true, HasFunction]
  simp only [Cursor.holdsKind_iff]

theorem hasFunction_cases {declaration : Cursor} :
    HasFunction Cursor.Holds declaration ↔
      HasFunction RightAround declaration ∨ HasFunction FurtherOut declaration ∨ HasFunction Aside declaration := by
  constructor
  · rintro ⟨declarator, member, place, holds, isFunction⟩
    by_cases onWay : ∃ declarators name, LeadsTo declarator declarators name ∧ place ∈ declarators
    · obtain ⟨declarators, name, way, within⟩ := onWay
      by_cases innermost : innermost? declarators = some place
      · exact .inl ⟨declarator, member, place, ⟨declarators, name, way, innermost⟩, isFunction⟩
      · exact .inr (.inl ⟨declarator, member, place, ⟨declarators, name, way, within, innermost⟩, isFunction⟩)
    · refine .inr (.inr ⟨declarator, member, place, ⟨holds, fun declarators name way within => ?_⟩, isFunction⟩)
      exact onWay ⟨declarators, name, way, within⟩
  · rintro (⟨declarator, member, place, right, isFunction⟩ | ⟨declarator, member, place, further, isFunction⟩ |
      ⟨declarator, member, place, aside, isFunction⟩)
    · obtain ⟨declarators, name, way, innermost⟩ := right
      exact ⟨declarator, member, place, way.holds place (mem_of_innermost? innermost), isFunction⟩
    · obtain ⟨declarators, name, way, within, _⟩ := further
      exact ⟨declarator, member, place, way.holds place within, isFunction⟩
    · exact ⟨declarator, member, place, aside.1, isFunction⟩

theorem role_of_declaration (source : Source) {declaration : Cursor} (isDeclaration : declaration.kind = "declaration") :
    role source declaration = .declares (if hasFunctionDeclarator declaration then .function else .var) := by
  have code : declaration.isComment = false := (Cursor.isComment_of_kind isDeclaration).trans (by decide)
  simp [role, code, isDeclaration]

end C

theorem Cpp.role_of_declaration (source : Source) {declaration : Cursor} (isDeclaration : declaration.kind = "declaration")
    (outside : isClassMember declaration = false) : role source declaration = C.role source declaration := by
  rw [role]
  simp [isDeclaration, outside]

end Grammar

namespace Language

open Grammar (token)
open Grammar.C (HasFunction RightAround FurtherOut Aside)

/-- A function declarator right around a declared name makes a function. One anywhere else below the declarators does
so too, as in a pointer to a function or in a value. -/
theorem function_by_declarators {language : Language} (family : language ∈ [.c, .cpp]) (source : Source)
    {declaration : Cursor} (isDeclaration : declaration.kind = "declaration")
    (outside : language = .cpp → Grammar.Cpp.isClassMember declaration = false) :
    (HasFunction RightAround declaration → language.grammar.role source declaration = .declares .function) ∧
    (HasFunction FurtherOut declaration ∨ HasFunction Aside declaration →
      language.grammar.role source declaration = .declares .function) ∧
    (¬ HasFunction RightAround declaration → ¬ HasFunction FurtherOut declaration → ¬ HasFunction Aside declaration →
      language.grammar.role source declaration = .declares .var) := by
  have role : language.grammar.role source declaration =
      .declares (if Grammar.C.hasFunctionDeclarator declaration then .function else .var) := by
    simp only [List.mem_cons, List.not_mem_nil, or_false] at family
    rcases family with rfl | rfl
    · exact Grammar.C.role_of_declaration source isDeclaration
    · exact (Grammar.Cpp.role_of_declaration source isDeclaration (outside rfl)).trans
        (Grammar.C.role_of_declaration source isDeclaration)
  have search : Grammar.C.hasFunctionDeclarator declaration ↔ HasFunction RightAround declaration ∨
      HasFunction FurtherOut declaration ∨ HasFunction Aside declaration :=
    Grammar.C.hasFunctionDeclarator_iff.trans Grammar.C.hasFunction_cases
  refine ⟨fun right => ?_, fun elsewhere => ?_, fun noRight noFurther noAside => ?_⟩
  · rw [role, if_pos (search.mpr (.inl right))]
  · rw [role, if_pos (search.mpr (.inr elsewhere))]
  · rw [role, if_neg fun found => ?_]
    rcases search.mp found with right | further | aside
    · exact noRight right
    · exact noFurther further
    · exact noAside aside

def pointerText : ByteArray :=
  "int ((f))(int);\nint *(*(*x)(void))[5];\n".toUTF8

def pointerSource : Source :=
  Document.source .c pointerText pointerText

def parameterList (type : String) (start : Nat) : Node :=
  let stop := start + 1 + type.utf8ByteSize
  .plain "parameter_list" (some "parameters") start (stop + 1)
    [token "(" start,
      .plain "parameter_declaration" none (start + 1) stop
        [.plain "primitive_type" (some "type") (start + 1) stop []],
      token ")" stop]

def pointerTree : Node :=
  .plain "translation_unit" none 0 39
    [.plain "declaration" none 0 15
        [.plain "primitive_type" (some "type") 0 3 [],
          .plain "function_declarator" (some "declarator") 4 14
            [.plain "parenthesized_declarator" (some "declarator") 4 9
                [token "(" 4,
                  .plain "parenthesized_declarator" none 5 8
                    [token "(" 5, .plain "identifier" none 6 7 [], token ")" 7],
                  token ")" 8],
              parameterList "int" 9],
          token ";" 14],
      .plain "declaration" none 16 38
        [.plain "primitive_type" (some "type") 16 19 [],
          .plain "pointer_declarator" (some "declarator") 20 37
            [token "*" 20,
              .plain "array_declarator" (some "declarator") 21 37
                [.plain "parenthesized_declarator" (some "declarator") 21 34
                    [token "(" 21,
                      .plain "pointer_declarator" none 22 33
                        [token "*" 22,
                          .plain "function_declarator" (some "declarator") 23 33
                            [.plain "parenthesized_declarator" (some "declarator") 23 27
                                [token "(" 23,
                                  .plain "pointer_declarator" none 24 26
                                    [token "*" 24, .plain "identifier" (some "declarator") 25 26 []],
                                  token ")" 26],
                              parameterList "void" 27]],
                      token ")" 33],
                  token "[" 34,
                  .plain "number_literal" (some "size") 35 36 [],
                  token "]" 36]],
          token ";" 37]]

theorem pointerTree_declares_function :
    ∃ declaration, (Cursor.root pointerTree).children[0]? = some declaration ∧
      declaration.kind = "declaration" ∧ HasFunction RightAround declaration ∧
      Language.c.grammar.role pointerSource declaration = .declares .function := by
  obtain ⟨declaration, found, isDeclaration, right⟩ : ∃ declaration,
      (Cursor.root pointerTree).children[0]? = some declaration ∧ declaration.kind = "declaration" ∧
      HasFunction RightAround declaration :=
    ⟨_, rfl, rfl, _, List.mem_of_getElem? (i := 0) rfl, _,
      ⟨_, _, .around ⟨rfl, rfl, rfl⟩ (.around ⟨rfl, rfl, rfl⟩ (.around ⟨rfl, rfl, rfl⟩ (.name rfl))), rfl⟩, rfl⟩
  have notCpp : Language.c = .cpp → Grammar.Cpp.isClassMember declaration = false := fun same => nomatch same
  exact ⟨declaration, found, isDeclaration, right,
    (function_by_declarators (by decide) pointerSource isDeclaration notCpp).1 right⟩

-- The declarator right around the name of the variable is a pointer, and still a function is said to be declared.
theorem pointerTree_takes_variable_for_function :
    ∃ declaration, (Cursor.root pointerTree).children[1]? = some declaration ∧
      declaration.kind = "declaration" ∧ Grammar.Cpp.isClassMember declaration = false ∧
      ¬ HasFunction RightAround declaration ∧
      Language.c.grammar.role pointerSource declaration = .declares .function ∧
      Language.cpp.grammar.role pointerSource declaration = .declares .function := by
  refine ⟨_, rfl, rfl, rfl, ?_, by decide +kernel, by decide +kernel⟩
  rintro ⟨declarator, member, place, ⟨declarators, name, way, innermost⟩, isFunction⟩
  cases List.mem_singleton.mp member
  obtain ⟨rfl, _⟩ := way.unique (.around ⟨rfl, rfl, rfl⟩ (.around ⟨rfl, rfl, rfl⟩ (.around ⟨rfl, rfl, rfl⟩
    (.around ⟨rfl, rfl, rfl⟩ (.around ⟨rfl, rfl, rfl⟩ (.around ⟨rfl, rfl, rfl⟩ (.around ⟨rfl, rfl, rfl⟩ (.name rfl))))))))
  cases innermost
  exact absurd isFunction (by decide)

end Language

end CodeOutline
