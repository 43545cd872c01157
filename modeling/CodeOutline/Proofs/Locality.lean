import CodeOutline.Proofs.Nesting
import CodeOutline.Proofs.Surroundings

set_option autoImplicit false

namespace CodeOutline

structure Node.Interchanged (old new : Node) : Prop where
  oldNamed : old.named = true
  newNamed : new.named = true
  oldCode : old.isComment = false
  newCode : new.isComment = false
  start : old.start = new.start
  stop : old.stop = new.stop

-- Siblings before a node, nearest first, among which `old` may have become `new`.
inductive Replaced (old new : Node) : List Node → List Node → Prop where
  | same (before : List Node) : Replaced old new before before
  | here (before : List Node) : Replaced old new (old :: before) (new :: before)
  | later {left right : List Node} (sibling : Node) (rest : Replaced old new left right) :
      Replaced old new (sibling :: left) (sibling :: right)

namespace Replaced

variable {old new : Node} {left right : List Node}

theorem followsCode (replaced : Replaced old new left right) (nodes : old.Interchanged new) (source : Source)
    (comment : Node) : source.followsCode comment left = source.followsCode comment right := by
  cases replaced with
  | same before => rfl
  | here before =>
      have bottom : source.bottomRow old = source.bottomRow new := by
        simp only [Source.bottomRow, nodes.start, nodes.stop]
      simp only [Source.followsCode, nodes.oldCode, nodes.newCode, bottom]
  | later sibling rest => rfl

theorem commentRun (replaced : Replaced old new left right) (nodes : old.Interchanged new) (source : Source)
    (boundary : Nat) : source.commentRun boundary left = source.commentRun boundary right := by
  induction replaced generalizing boundary with
  | same before => rfl
  | here before => simp [Source.commentRun, nodes.oldNamed, nodes.newNamed, nodes.oldCode, nodes.newCode]
  | later sibling rest ih => simp only [Source.commentRun, ih, rest.followsCode nodes source sibling]

end Replaced

namespace Context

variable {first second old new : Node} {left right : List Node}

theorem alike_of_replaced (kinds : first.kind = second.kind) (undecorated : first.kind ≠ "decorated_definition")
    (nodes : old.Interchanged new) (replaced : Replaced old new left right) :
    Alike (.under first .top left) (.under second .top right) where
  documentation source node := by
    simp only [Source.documentation?, Cursor.before, Cursor.start, replaced.commentRun nodes]
  under kind _ node := by
    simp [Cursor.isUnder, Cursor.parent?, Cursor.kind, kinds]
  classMember node := by
    by_cases isTemplate : second.kind = "template_declaration"
    · simp [Grammar.Cpp.isClassMember, Cursor.isUnder, Cursor.parent?, Cursor.kind, kinds, isTemplate]
    · simp [Grammar.Cpp.isClassMember, Cursor.parent?, Cursor.kind, kinds, isTemplate]
  undecorated node := by
    simp [Cursor.isUnder, Cursor.parent?, Cursor.kind, undecorated]

end Context

namespace Grammar

variable {grammar : Grammar} {a b : Context}

theorem complete_graft (source : Source) (visibility : Visibility) {depth : Nat} {left right : Finding}
    (same : left.Alike a b right)
    (below : ∀ members : Cursor, left.members = some (members.graft a) →
      grammar.symbolsIn source visibility (depth + 1) (members.graft a) =
        grammar.symbolsIn source visibility (depth + 1) (members.graft b)) :
    grammar.complete source visibility depth left = grammar.complete source visibility depth right := by
  obtain ⟨declaration, members, leftMembers, rightMembers⟩ := same
  rw [complete, complete]
  cases members with
  | none =>
      rw [leftMembers, rightMembers, declaration]
      rfl
  | some members =>
      rw [leftMembers, rightMembers, declaration]
      exact congrArg _ (below members leftMembers)

theorem symbolsAt_graft (blind : grammar.Blind a b) (source : Source) (visibility : Visibility) (depth : Nat)
    (child : Cursor)
    (below : ∀ level (inner : Cursor), inner.size ≤ child.size →
      grammar.symbolsIn source visibility level (inner.graft a) =
        grammar.symbolsIn source visibility level (inner.graft b)) :
    grammar.symbolsAt source visibility depth (child.graft a) =
      grammar.symbolsAt source visibility depth (child.graft b) := by
  rw [symbolsAt, symbolsAt]
  rw [blind.role source child]
  cases grammar.role source (child.graft b) with
  | skip => rfl
  | enter => exact below depth child (Nat.le_refl _)
  | declares kind =>
      have smaller := grammar.members_smaller source (child.graft a) kind depth
      have findings := blind.findings source child kind depth
      dsimp only
      generalize grammar.findings source (child.graft a) kind depth = left at findings smaller ⊢
      generalize grammar.findings source (child.graft b) kind depth = right at findings ⊢
      induction findings with
      | nil => rfl
      | @cons one other left right same _ ih =>
          have rest := ih fun finding member => smaller finding (List.mem_cons_of_mem _ member)
          have completed : grammar.complete source visibility depth one =
              grammar.complete source visibility depth other :=
            complete_graft source visibility same fun members found =>
              below (depth + 1) members (Nat.le_of_lt (smaller one List.mem_cons_self (members.graft a) found))
          rw [List.filter_cons, List.filter_cons, same.declaration]
          split
          · rw [List.map_cons, List.map_cons, completed, rest]
          · exact rest

theorem symbolsIn_graft (blind : grammar.Blind a b) (source : Source) (visibility : Visibility) (depth : Nat)
    (cursor : Cursor) :
    grammar.symbolsIn source visibility depth (cursor.graft a) =
      grammar.symbolsIn source visibility depth (cursor.graft b) := by
  rw [symbolsIn_eq, symbolsIn_eq, Cursor.namedChildren_graft, Cursor.namedChildren_graft, List.flatMap_map,
    List.flatMap_map]
  refine List.flatMap_congr fun child member => ?_
  refine symbolsAt_graft blind source visibility depth child fun level inner small => ?_
  exact symbolsIn_graft blind source visibility level inner
termination_by cursor.size
decreasing_by exact Nat.lt_of_le_of_lt small (Cursor.size_of_namedChild member)

def symbolsAmong (grammar : Grammar) (source : Source) (visibility : Visibility) (depth : Nat)
    (children : List Cursor) : List Symbol :=
  (children.filter (·.node.named)).flatMap (grammar.symbolsAt source visibility depth)

theorem symbolsIn_split (grammar : Grammar) (source : Source) (visibility : Visibility) (depth : Nat) (parent : Cursor)
    (position : Nat) :
    grammar.symbolsIn source visibility depth parent =
      grammar.symbolsAmong source visibility depth (parent.children.take position) ++
        grammar.symbolsAmong source visibility depth (parent.children[position]?.toList) ++
          grammar.symbolsAmong source visibility depth (parent.children.drop (position + 1)) := by
  have split : parent.children = parent.children.take position ++ parent.children[position]?.toList ++
      parent.children.drop (position + 1) := by
    rw [← List.take_add_one, List.take_append_drop]
  rw [symbolsIn_eq, Cursor.namedChildren]
  conv => lhs; rw [split]
  simp only [symbolsAmong, List.filter_append, List.flatMap_append]

theorem symbolsAmong_of_alike (language : Language) (source : Source) (visibility : Visibility) (depth : Nat)
    {parent other : Cursor} (similar : List Node → List Node → Prop)
    (alike : ∀ left right, similar left right →
      (Context.under parent.node parent.context left).Alike (.under other.node other.context right))
    (later : ∀ left right sibling, similar left right → similar (sibling :: left) (sibling :: right))
    {left right : List Node} (before : similar left right) (siblings : List Node) :
    language.grammar.symbolsAmong source visibility depth (Cursor.placeAll parent left siblings) =
      language.grammar.symbolsAmong source visibility depth (Cursor.placeAll other right siblings) := by
  induction siblings generalizing left right with
  | nil => rfl
  | cons node rest ih =>
      have blind := blind_of_language language (alike left right before)
      have same := symbolsAt_graft blind source visibility depth (.root node) fun level inner _ =>
        symbolsIn_graft blind source visibility level inner
      have others := ih (later left right node before)
      simp only [symbolsAmong, Cursor.placeAll, List.filter_cons] at others ⊢
      split
      · rw [List.flatMap_cons, List.flatMap_cons, others]
        exact congrArg (· ++ _) same
      · exact others

section Replacement

variable (language : Language) (source : Source) (visibility : Visibility) (depth : Nat)
variable {first second old new : Node} (kinds : first.kind = second.kind)
variable (undecorated : first.kind ≠ "decorated_definition") (nodes : old.Interchanged new)

include kinds undecorated nodes

theorem symbolsAmong_of_replaced {left right : List Node} (replaced : Replaced old new left right)
    (siblings : List Node) :
    language.grammar.symbolsAmong source visibility depth (Cursor.placeAll (.root first) left siblings) =
      language.grammar.symbolsAmong source visibility depth (Cursor.placeAll (.root second) right siblings) :=
  symbolsAmong_of_alike language source visibility depth (Replaced old new)
    (fun _ _ replaced => Context.alike_of_replaced kinds undecorated nodes replaced)
    (fun _ _ sibling replaced => replaced.later sibling) replaced siblings

theorem symbolsAmong_before {position : Nat} (replaced : second.children = first.children.set position new) :
    language.grammar.symbolsAmong source visibility depth ((Cursor.root first).children.take position) =
      language.grammar.symbolsAmong source visibility depth ((Cursor.root second).children.take position) := by
  have front : second.children.take position = first.children.take position := by
    rw [replaced, List.take_set_of_le (Nat.le_refl _)]
  rw [Cursor.children, Cursor.children]
  rw [Cursor.take_placeAll, Cursor.take_placeAll, show (Cursor.root second).node.children = second.children from rfl, front]
  exact symbolsAmong_of_replaced language source visibility depth kinds undecorated nodes (.same []) _

theorem symbolsAmong_after {position : Nat} (there : first.children[position]? = some old)
    (replaced : second.children = first.children.set position new) :
    language.grammar.symbolsAmong source visibility depth ((Cursor.root first).children.drop (position + 1)) =
      language.grammar.symbolsAmong source visibility depth ((Cursor.root second).children.drop (position + 1)) := by
  have inside : position < first.children.length := (List.getElem?_eq_some_iff.mp there).1
  have upTo : first.children.take (position + 1) = first.children.take position ++ [old] := by
    rw [List.take_add_one, there]
    rfl
  have upToNew : second.children.take (position + 1) = first.children.take position ++ [new] := by
    simp [replaced, List.take_add_one, inside, List.take_set_of_le]
  have back : second.children.drop (position + 1) = first.children.drop (position + 1) := by
    simp [replaced, List.drop_set_of_lt]
  have same := symbolsAmong_of_replaced language source visibility depth kinds undecorated nodes
    (.here (first.children.take position).reverse) (first.children.drop (position + 1))
  rw [Cursor.children, Cursor.children]
  rw [Cursor.drop_placeAll, Cursor.drop_placeAll]
  simpa [Cursor.root, upTo, upToNew, back] using same

end Replacement

end Grammar

namespace Document

def declaredBy (language : Language) (parsed content : ByteArray) (children : List Cursor) : List Symbol :=
  language.grammar.symbolsAmong (source language parsed content) language.visibility 0 children

theorem extract_split {tag : String} {language : Language} (supported : Language.ofTag? tag = some language)
    (parsed content : ByteArray) (root : Node) (position : Nat) :
    extract tag parsed content root = .ok ⟨language,
      declaredBy language parsed content ((Cursor.root root).children.take position) ++
        declaredBy language parsed content ((Cursor.root root).children[position]?.toList) ++
          declaredBy language parsed content ((Cursor.root root).children.drop (position + 1))⟩ := by
  rw [extract_of_tag supported, ofTree, Grammar.symbolsIn_split _ _ _ _ _ position]
  rfl

/-- Replacing one child of the root by other code of the same extent changes none of the symbols that the
children before and after it declare. -/
theorem extract_confines_damage {tag : String} {language : Language}
    (supported : Language.ofTag? tag = some language) (parsed content : ByteArray) {first second old new : Node}
    {position : Nat} (kinds : first.kind = second.kind) (undecorated : first.kind ≠ "decorated_definition")
    (there : first.children[position]? = some old) (replaced : second.children = first.children.set position new)
    (nodes : old.Interchanged new) :
    ∃ before here here' after : List Symbol,
      extract tag parsed content first = .ok ⟨language, before ++ here ++ after⟩ ∧
      extract tag parsed content second = .ok ⟨language, before ++ here' ++ after⟩ ∧
      ∀ root ∈ [first, second],
        before = declaredBy language parsed content ((Cursor.root root).children.take position) ∧
        after = declaredBy language parsed content ((Cursor.root root).children.drop (position + 1)) := by
  have before : declaredBy language parsed content ((Cursor.root first).children.take position) =
      declaredBy language parsed content ((Cursor.root second).children.take position) :=
    Grammar.symbolsAmong_before language _ _ 0 kinds undecorated nodes replaced
  have after : declaredBy language parsed content ((Cursor.root first).children.drop (position + 1)) =
      declaredBy language parsed content ((Cursor.root second).children.drop (position + 1)) :=
    Grammar.symbolsAmong_after language _ _ 0 kinds undecorated nodes there replaced
  have changed := extract_split supported parsed content second position
  rw [← before, ← after] at changed
  refine ⟨_, _, _, _, extract_split supported parsed content first position, changed, ?_⟩
  intro root member
  rw [List.mem_pair] at member
  rcases member with rfl | rfl
  · exact ⟨rfl, rfl⟩
  · exact ⟨before, after⟩

def threeFunctionsText : ByteArray :=
  "func a() \x7b\x7d\nfunc b() \x7b\x7d // left\n// right\nfunc c() \x7b\x7d\n".toUTF8

def threeFunctions (second : Node) : Node :=
  .plain "source_file" none 0 53
    [.plain "function_declaration" none 0 11 [.plain "identifier" (some "name") 5 6 []],
      second,
      .plain "comment" none 24 31 [],
      .plain "comment" none 32 40 [],
      .plain "function_declaration" none 41 52 [.plain "identifier" (some "name") 46 47 []]]

def readableFunction : Node :=
  .plain "function_declaration" none 12 23 [.plain "identifier" (some "name") 17 18 []]

def unreadableFunction : Node :=
  .plain "ERROR" none 12 23 [.plain "identifier" none 17 18 []]

theorem threeFunctions_confines_damage :
    (ofTree .go threeFunctionsText threeFunctionsText (threeFunctions readableFunction)).count = 3 ∧
    (ofTree .go threeFunctionsText threeFunctionsText (threeFunctions unreadableFunction)).count = 2 ∧
    ∃ before here here' after : List Symbol,
      extract "go" threeFunctionsText threeFunctionsText (threeFunctions readableFunction) =
        .ok ⟨.go, before ++ here ++ after⟩ ∧
      extract "go" threeFunctionsText threeFunctionsText (threeFunctions unreadableFunction) =
        .ok ⟨.go, before ++ here' ++ after⟩ ∧
      ∀ root ∈ [threeFunctions readableFunction, threeFunctions unreadableFunction],
        before = declaredBy .go threeFunctionsText threeFunctionsText ((Cursor.root root).children.take 1) ∧
        after = declaredBy .go threeFunctionsText threeFunctionsText ((Cursor.root root).children.drop 2) := by
  have supported : Language.ofTag? "go" = some .go := by decide
  have nodes : readableFunction.Interchanged unreadableFunction :=
    ⟨rfl, rfl, by decide, by decide, rfl, rfl⟩
  have there : (threeFunctions readableFunction).children[1]? = some readableFunction := rfl
  have replaced : (threeFunctions unreadableFunction).children =
      (threeFunctions readableFunction).children.set 1 unreadableFunction := rfl
  have kinds : (threeFunctions readableFunction).kind = (threeFunctions unreadableFunction).kind := rfl
  have confined :=
    extract_confines_damage supported threeFunctionsText threeFunctionsText kinds (by decide) there replaced nodes
  exact ⟨by decide +kernel, by decide +kernel, confined⟩

end Document

end CodeOutline
