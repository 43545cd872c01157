import CodeOutline.Proofs.Dispatch
import CodeOutline.Proofs.Templates

set_option autoImplicit false

namespace CodeOutline

open Relation (ReflTransGen)

namespace Grammar

section Meeting

def Enters (grammar : Grammar) (source : Source) (parent child : Cursor) : Prop :=
  child ∈ parent.namedChildren ∧ grammar.role source child = .enter

def Meets (grammar : Grammar) (source : Source) (body node : Cursor) : Prop :=
  ∃ place, ReflTransGen (grammar.Enters source) body place ∧ node ∈ place.namedChildren

structure Makes (grammar : Grammar) (source : Source) (visibility : Visibility) (depth : Nat) (body node : Cursor)
    (symbol : Symbol) : Prop where
  met : grammar.Meets source body node
  declares : ∃ kind, grammar.role source node = .declares kind
  shown : symbol ∈ grammar.symbolsAt source visibility depth node

variable {grammar : Grammar} {source : Source} {visibility : Visibility} {depth : Nat} {body child node : Cursor}
  {symbol : Symbol}

theorem Meets.here (member : node ∈ body.namedChildren) : grammar.Meets source body node :=
  ⟨body, .refl, member⟩

theorem Meets.inside (enters : grammar.Enters source body child) (meets : grammar.Meets source child node) :
    grammar.Meets source body node := by
  obtain ⟨place, way, member⟩ := meets
  exact ⟨place, .head enters way, member⟩

theorem makes_of_mem (member : symbol ∈ grammar.symbolsIn source visibility depth body) :
    ∃ node, grammar.Makes source visibility depth body node symbol := by
  induction depth, body using walk_induction grammar source with
  | step depth body entered _ =>
      rw [symbolsIn_eq] at member
      obtain ⟨child, within, shown⟩ := List.mem_flatMap.mp member
      cases role : grammar.role source child with
      | skip =>
          rw [symbolsAt_of_skip role] at shown
          cases shown
      | enter =>
          rw [symbolsAt_of_enter role] at shown
          obtain ⟨node, made⟩ := entered child within role shown
          exact ⟨node, .inside ⟨within, role⟩ made.met, made.declares, made.shown⟩
      | declares kind => exact ⟨child, .here within, ⟨kind, role⟩, shown⟩

theorem Makes.mem (made : grammar.Makes source visibility depth body node symbol) :
    symbol ∈ grammar.symbolsIn source visibility depth body := by
  obtain ⟨⟨place, way, member⟩, _, shown⟩ := made
  induction way using ReflTransGen.head_induction_on with
  | refl =>
      rw [symbolsIn_eq]
      exact List.mem_flatMap.mpr ⟨node, member, shown⟩
  | head enters _ ih =>
      rw [symbolsIn_eq]
      refine List.mem_flatMap.mpr ⟨_, enters.1, ?_⟩
      rwa [symbolsAt_of_enter enters.2]

theorem mem_symbolsIn_iff :
    symbol ∈ grammar.symbolsIn source visibility depth body ↔
      ∃ node, grammar.Makes source visibility depth body node symbol :=
  ⟨makes_of_mem, fun ⟨_, made⟩ => made.mem⟩

theorem mem_children_iff {finding : Finding} :
    symbol ∈ (grammar.complete source visibility depth finding).children ↔
      ∃ body node, finding.members = some body ∧ grammar.Makes source visibility (depth + 1) body node symbol := by
  cases found : finding.members with
  | none => simp [children_of_leaf found]
  | some members => simp [children_of_complete found, mem_symbolsIn_iff]

end Meeting

namespace Cpp

variable {source : Source} {cursor subject node function : Cursor} {kind : Kind}

section Subjects

theorem role_of_heading (heading : ReflTransGen Heads cursor subject) : role source cursor = role source subject := by
  induction heading using ReflTransGen.head_induction_on with
  | refl => rfl
  | head heads _ ih => exact (role_of_heads heads).trans ih

theorem members_of_heading (heading : ReflTransGen Heads cursor subject) (kind : Kind) :
    (declarations source cursor kind).map (·.members) = (declarations source subject kind).map (·.members) := by
  induction heading using ReflTransGen.head_induction_on with
  | refl => rfl
  | head heads _ ih =>
      rw [declarations_of_heads heads, List.map_map, ← ih]
      rfl

theorem exists_subject {cursor : Cursor} (declared : role source cursor = .declares kind) :
    ∃ subject, ReflTransGen Heads cursor subject ∧ subject.kind ≠ "template_declaration" := by
  by_cases isTemplate : cursor.kind = "template_declaration"
  · cases found : templateSubject? cursor with
    | none =>
        rw [role_of_template isTemplate, found] at declared
        cases declared
    | some target =>
        have heads : Heads cursor target := ⟨isTemplate, found⟩
        obtain ⟨subject, heading, plain⟩ := exists_subject ((role_of_heads heads).symm.trans declared)
        exact ⟨subject, .head heads heading, plain⟩
  · exact ⟨cursor, .refl, isTemplate⟩
termination_by cursor.size
decreasing_by exact size_of_templateSubject? found

end Subjects

section Records

def recordKinds : List Kind :=
  [.classType, .struct, .type]

def recordSpecifiers : List String :=
  ["class_specifier", "struct_specifier", "union_specifier"]

theorem specifier_of_role (declared : role source subject = .declares kind) (isRecord : kind ∈ recordKinds)
    (plain : subject.kind ≠ "template_declaration") : subject.kind ∈ recordSpecifiers := by
  by_cases own : subject.kind ∈ ownKinds
  · simp only [ownKinds, List.mem_cons, List.not_mem_nil, or_false] at own
    rw [role] at declared
    rcases own with is | is | is | is | is | is | is | is | is
    all_goals
      first
      | exact absurd is plain
      | exact is ▸ List.mem_cons_self
      | simp only [is] at declared
        cases declared
    all_goals exact absurd isRecord (by decide)
  · rw [role_of_shared source own] at declared
    split at declared
    · cases declared
      exact absurd isRecord (by decide)
    · rw [C.role] at declared
      split at declared
      · cases declared
      · split at declared <;> cases declared
        all_goals
          first
          | exact absurd isRecord (by decide)
          | split at isRecord <;> exact absurd isRecord (by decide)
          | rename_i is
            exact is ▸ by decide

theorem declares_of_specifier (source : Source) (isSpecifier : subject.kind ∈ recordSpecifiers) :
    ∃ kind, role source subject = .declares kind := by
  simp only [recordSpecifiers, List.mem_cons, List.not_mem_nil, or_false] at isSpecifier
  rcases isSpecifier with is | is | is
  · exact ⟨.classType, by simp only [role, is]⟩
  all_goals
    have code : subject.isComment = false := (Cursor.isComment_of_kind is).trans (by decide)
    rw [role_of_shared source (is ▸ by decide)]
    simp [writesFunction, C.role, code, is]

theorem declarations_of_specifier (isSpecifier : subject.kind ∈ recordSpecifiers) (kind : Kind) :
    declarations source subject kind = [C.record source subject kind] := by
  simp only [recordSpecifiers, List.mem_cons, List.not_mem_nil, or_false] at isSpecifier
  rcases isSpecifier with is | is | is
  · simp only [declarations, is]
  all_goals
    rw [declarations_of_shared source kind (is ▸ by decide)]
    simp only [C.declarations, is]

structure RecordAt (source : Source) (depth : Nat) (cursor subject : Cursor) (record : Symbol) : Prop where
  shown : record ∈ cpp.symbolsAt source .everything depth cursor
  heading : ReflTransGen Heads cursor subject
  specifier : subject.kind ∈ recordSpecifiers

theorem recordAt_of_finds {depth : Nat} {finding : Finding} (finds : cpp.Finds source depth cursor finding)
    (isRecord : finding.declaration.kind ∈ recordKinds) :
    ∃ subject, RecordAt source depth cursor subject (cpp.complete source .everything depth finding) := by
  obtain ⟨kind, declared, made⟩ := finds
  rw [(declarations_of_role declared).kinds finding made] at isRecord
  obtain ⟨subject, heading, plain⟩ := exists_subject declared
  refine ⟨subject, ?_, heading, specifier_of_role ((role_of_heading heading).symm.trans declared) isRecord plain⟩
  rw [symbolsAt_of_shown declared]
  exact List.mem_map_of_mem made

theorem RecordAt.mem_children_iff {depth : Nat} {record symbol : Symbol}
    (recordAt : RecordAt source depth cursor subject record) :
    symbol ∈ record.children ↔ ∃ body node, subject.field? "body" = some body ∧
      cpp.Makes source .everything (depth + 1) body node symbol := by
  obtain ⟨kind, declared⟩ := declares_of_specifier source recordAt.specifier
  have shown := recordAt.shown
  rw [symbolsAt_of_shown ((role_of_heading recordAt.heading).trans declared)] at shown
  obtain ⟨finding, made, rfl⟩ := List.mem_map.mp shown
  have listed : finding.members ∈ (declarations source cursor kind).map (·.members) := List.mem_map_of_mem made
  rw [members_of_heading recordAt.heading, declarations_of_specifier recordAt.specifier] at listed
  rw [Grammar.mem_children_iff, List.mem_singleton.mp listed]
  rfl

end Records

section Functions

def StandsInBody (function : Cursor) : Prop :=
  ∃ parent, function.parent? = some parent ∧
    (parent.kind = "field_declaration_list" ∨
      parent.kind = "template_declaration" ∧ parent.isUnder "field_declaration_list")

theorem isClassMember_iff : isClassMember function ↔ StandsInBody function := by
  rw [isClassMember, StandsInBody]
  cases function.parent? with
  | none => simp
  | some parent =>
      by_cases isTemplate : parent.kind = "template_declaration"
      · simp [isTemplate]
      · simp [isTemplate]

theorem standsInBody_of_list {body : Cursor} (isList : body.kind = "field_declaration_list")
    (member : node ∈ body.namedChildren) (near : node = function ∨ Heads node function) : StandsInBody function := by
  have above := Cursor.parent?_of_mem_placeAll (List.mem_filter.mp member).1
  rcases near with rfl | heads
  · exact ⟨body, above, .inl isList⟩
  · have held := (List.mem_filter.mp (List.mem_of_getLast? heads.subject)).1
    refine ⟨node, Cursor.parent?_of_mem_placeAll (List.mem_filter.mp held).1, .inr ⟨heads.kind, ?_⟩⟩
    simp [Cursor.isUnder, above, isList]

def plainKind (function : Cursor) : Kind :=
  if function.kind = "field_declaration" then .field else .function

theorem role_of_plain (writes : writesFunction function) : C.role source function = .declares (plainKind function) := by
  have isFunction := kind_of_writesFunction writes
  simp only [List.mem_cons, List.not_mem_nil, or_false] at isFunction
  rcases isFunction with is | is | is
  all_goals
    have code : function.isComment = false := (Cursor.isComment_of_kind is).trans (by decide)
    simp only [C.role, code, is, plainKind]
  · rfl
  · have declares : C.hasFunctionDeclarator function := by simpa [writesFunction, is] using writes
    simp [declares]
  · rfl

theorem role_of_function (writes : writesFunction function) :
    role source function = .declares (if isClassMember function then .method else plainKind function) := by
  have shared : function.kind ∉ ownKinds := by
    have isFunction := kind_of_writesFunction writes
    simp only [List.mem_cons, List.not_mem_nil, or_false] at isFunction
    rcases isFunction with is | is | is <;> exact is ▸ by decide
  rw [role_of_shared source shared, role_of_plain writes, writes, Bool.and_true]
  split <;> rfl

theorem plainKind_ne_method (function : Cursor) : plainKind function ≠ .method := by
  rw [plainKind]
  split <;> decide

-- A function has one symbol, behind however many templates it stands.
theorem makes_of_function {body : Cursor} (met : cpp.Meets source body node)
    (heading : ReflTransGen Heads node function) (writes : writesFunction function) (depth : Nat) :
    ∃ symbol, (∀ other, cpp.Makes source .everything depth body node other ↔ other = symbol) ∧
      (symbol.kind = .method ↔ StandsInBody function) ∧
      (¬ StandsInBody function → symbol.kind = plainKind function) := by
  have declared : cpp.role source node = _ := (role_of_heading heading).trans (role_of_function writes)
  obtain ⟨finding, single, same⟩ := declarations_of_role declared
  have only : cpp.symbolsAt source .everything depth node = [cpp.complete source .everything depth finding] := by
    rw [symbolsAt_of_shown declared]
    exact congrArg (List.map _) single
  refine ⟨cpp.complete source .everything depth finding, fun other => ⟨fun made => ?_, ?_⟩, ?_⟩
  · exact List.mem_singleton.mp (only ▸ made.shown)
  · rintro rfl
    exact ⟨met, ⟨_, declared⟩, only ▸ List.mem_singleton_self _⟩
  · change (finding.declaration.kind = .method ↔ _) ∧ (_ → finding.declaration.kind = _)
    rw [same, ← isClassMember_iff]
    split
    case isTrue member => exact ⟨iff_of_true rfl member, absurd member⟩
    case isFalse member => exact ⟨iff_of_false (plainKind_ne_method function) member, fun _ => rfl⟩

end Functions

end Cpp

end Grammar

namespace Document

open Grammar.Cpp (Heads RecordAt StandsInBody plainKind recordKinds recordSpecifiers writesFunction)

theorem mem_symbols_of_child {language : Language} {parsed content : ByteArray} {tree : Node} {child : Cursor}
    {symbol : Symbol} (member : child ∈ (Cursor.root tree).namedChildren)
    (shown : symbol ∈ language.grammar.symbolsAt (source language parsed content) language.visibility 0 child) :
    symbol ∈ (ofTree language parsed content tree).symbols := by
  rw [ofTree, Grammar.symbolsIn_eq]
  exact List.mem_flatMap.mpr ⟨child, member, shown⟩

/-- A function that the walk through the body of a class meets is a method if it stands in a list of members, or in a
template there, and otherwise it is what C takes it for. -/
theorem methods_stand_in_bodies {tag : String} (supported : Language.ofTag? tag = some .cpp)
    (parsed content : ByteArray) (tree : Node) :
    ∃ document, extract tag parsed content tree = .ok document ∧
      (∀ record, Symbol.Among document.symbols record → record.kind ∈ recordKinds →
        ∃ depth cursor subject, (Cursor.root tree).Holds cursor ∧
          RecordAt (source .cpp parsed content) depth cursor subject record) ∧
      ∀ depth cursor subject record, RecordAt (source .cpp parsed content) depth cursor subject record →
        (∀ symbol, symbol ∈ record.children ↔ ∃ body node, subject.field? "body" = some body ∧
          Grammar.cpp.Makes (source .cpp parsed content) .everything (depth + 1) body node symbol) ∧
        ∀ body node function, subject.field? "body" = some body →
          Grammar.cpp.Meets (source .cpp parsed content) body node →
          ReflTransGen Heads node function → writesFunction function →
          ∃ symbol ∈ record.children,
            (∀ other, Grammar.cpp.Makes (source .cpp parsed content) .everything (depth + 1) body node other ↔
              other = symbol) ∧
            (symbol.kind = .method ↔ StandsInBody function) ∧
            (¬ StandsInBody function → symbol.kind = plainKind function) ∧
            (body.kind = "field_declaration_list" → node ∈ body.namedChildren →
              node = function ∨ Heads node function → symbol.kind = .method) := by
  refine ⟨_, extract_of_tag supported parsed content tree, ?_, ?_⟩
  · intro record among isRecord
    obtain ⟨depth, cursor, finding, inside, finds, rfl⟩ :=
      Grammar.finding_of_among (Grammar.membersHeld .cpp) among
    obtain ⟨subject, recordAt⟩ := Grammar.Cpp.recordAt_of_finds finds isRecord
    exact ⟨depth, cursor, subject, inside, recordAt⟩
  · intro depth cursor subject record recordAt
    refine ⟨fun symbol => recordAt.mem_children_iff, ?_⟩
    intro body node function found met heading writes
    obtain ⟨symbol, only, isMethod, otherwise⟩ := Grammar.Cpp.makes_of_function met heading writes (depth + 1)
    have member := recordAt.mem_children_iff.mpr ⟨body, node, found, (only symbol).mpr rfl⟩
    refine ⟨symbol, member, only, isMethod, otherwise, fun isList direct near => ?_⟩
    exact isMethod.mpr (Grammar.Cpp.standsInBody_of_list isList direct near)

def boxText : ByteArray :=
  "struct Box \x7b\n    void fill();\n    template <class T> T get();\n\x7d;\n".toUTF8

def boxTree : Node :=
  .plain "translation_unit" none 0 65
    [.plain "struct_specifier" none 0 63
      [.plain "type_identifier" (some "name") 7 10 [],
        .plain "field_declaration_list" (some "body") 11 63
          [.plain "field_declaration" none 17 29
              [.plain "primitive_type" (some "type") 17 21 [],
                .plain "function_declarator" (some "declarator") 22 28
                  [.plain "field_identifier" (some "declarator") 22 26 []]],
            .plain "template_declaration" none 34 61
              [.plain "template_parameter_list" (some "parameters") 43 52 [],
                .plain "declaration" none 53 61
                  [.plain "type_identifier" (some "type") 53 54 [],
                    .plain "function_declarator" (some "declarator") 55 60
                      [.plain "identifier" (some "declarator") 55 58 []]]]]]]

theorem boxTree_has_methods :
    ∃ document record subject body plain template function,
      extract "c++" boxText boxText boxTree = .ok document ∧ record ∈ document.symbols ∧ record.kind ∈ recordKinds ∧
      RecordAt (source .cpp boxText boxText) 0 subject subject record ∧ subject.field? "body" = some body ∧
      (plain ∈ body.namedChildren ∧ writesFunction plain ∧ ∃ symbol ∈ record.children, symbol.kind = .method ∧
        Grammar.cpp.Makes (source .cpp boxText boxText) .everything 1 body plain symbol) ∧
      template ∈ body.namedChildren ∧ Heads template function ∧ writesFunction function ∧
        ∃ symbol ∈ record.children, symbol.kind = .method ∧
          Grammar.cpp.Makes (source .cpp boxText boxText) .everything 1 body template symbol := by
  have supported : Language.ofTag? "c++" = some .cpp := by decide
  obtain ⟨subject, body, plain, template, function, child, found, first, second, heads⟩ :
      ∃ subject body plain template function, (Cursor.root boxTree).namedChildren[0]? = some subject ∧
        subject.field? "body" = some body ∧ body.namedChildren[0]? = some plain ∧
        body.namedChildren[1]? = some template ∧ Heads template function :=
    ⟨_, _, _, _, _, rfl, rfl, rfl, rfl, rfl, rfl⟩
  obtain ⟨record, shown, isRecord⟩ :
      ∃ record ∈ Grammar.cpp.symbolsAt (source .cpp boxText boxText) .everything 0 subject,
        record.kind ∈ recordKinds := by
    cases child
    decide +kernel
  have recordAt : RecordAt (source .cpp boxText boxText) 0 subject subject record := by
    refine ⟨shown, .refl, ?_⟩
    cases child
    decide
  obtain ⟨document, extracted, _, members⟩ := methods_stand_in_bodies supported boxText boxText boxTree
  obtain ⟨_, functions⟩ := members 0 subject subject record recordAt
  have isList : body.kind = "field_declaration_list" := by
    cases child
    cases found
    rfl
  have writes : writesFunction plain ∧ writesFunction function := by
    cases child
    cases found
    cases first
    cases second
    cases heads.subject
    decide
  have plainMember := List.mem_of_getElem? first
  have templateMember := List.mem_of_getElem? second
  obtain ⟨fill, isMember, onlyFill, _, _, isMethod⟩ :=
    functions body plain plain found (.here plainMember) .refl writes.1
  obtain ⟨get, isMemberToo, onlyGet, _, _, isMethodToo⟩ :=
    functions body template function found (.here templateMember) (.single heads) writes.2
  refine ⟨document, record, subject, body, plain, template, function, extracted, ?_, isRecord, recordAt, found,
    ⟨plainMember, writes.1, fill, isMember, isMethod isList plainMember (.inl rfl), (onlyFill fill).mpr rfl⟩,
    templateMember, heads, writes.2, get, isMemberToo, isMethodToo isList templateMember (.inr heads),
    (onlyGet get).mpr rfl⟩
  rw [extract_of_tag supported] at extracted
  cases extracted
  exact mem_symbols_of_child (List.mem_of_getElem? child) shown

def condText : ByteArray :=
  "class \t Cond \x7b\n#if  X\n    int a;\n#else\n    void b();\n#endif\n\x7d;\n".toUTF8

def condTree : Node :=
  .plain "translation_unit" none 0 63
    [.plain "class_specifier" none 0 61
      [.plain "type_identifier" (some "name") 8 12 [],
        .plain "field_declaration_list" (some "body") 13 61
          [.plain "preproc_if" none 15 59
            [.plain "identifier" (some "condition") 20 21 [],
              .plain "field_declaration" none 26 32
                [.plain "primitive_type" (some "type") 26 29 [],
                  .plain "field_identifier" (some "declarator") 30 31 []],
              .plain "preproc_else" (some "alternative") 33 52
                [.plain "field_declaration" none 43 52
                  [.plain "primitive_type" (some "type") 43 47 [],
                    .plain "function_declarator" (some "declarator") 48 51
                      [.plain "field_identifier" (some "declarator") 48 49 []]]]]]]]

-- The function is a member of the class, and taken for a field.
theorem condTree_takes_method_for_field :
    ∃ document record subject body node, extract "cpp" condText condText condTree = .ok document ∧
      record ∈ document.symbols ∧ record.kind = .classType ∧
      RecordAt (source .cpp condText condText) 0 subject subject record ∧ subject.field? "body" = some body ∧
      Grammar.cpp.Meets (source .cpp condText condText) body node ∧ writesFunction node ∧
      ∃ symbol ∈ record.children, Grammar.cpp.Makes (source .cpp condText condText) .everything 1 body node symbol ∧
        symbol.name = "b" ∧ symbol.kind = .field := by
  have supported : Language.ofTag? "cpp" = some .cpp := by decide
  obtain ⟨subject, body, outer, inner, node, child, found, first, second, third⟩ :
      ∃ subject body outer inner node, (Cursor.root condTree).namedChildren[0]? = some subject ∧
        subject.field? "body" = some body ∧ body.namedChildren[0]? = some outer ∧
        outer.namedChildren[2]? = some inner ∧ inner.namedChildren[0]? = some node :=
    ⟨_, _, _, _, _, rfl, rfl, rfl, rfl, rfl⟩
  obtain ⟨record, shown, isClass⟩ :
      ∃ record ∈ Grammar.cpp.symbolsAt (source .cpp condText condText) .everything 0 subject,
        record.kind = .classType := by
    cases child
    decide +kernel
  have recordAt : RecordAt (source .cpp condText condText) 0 subject subject record := by
    refine ⟨shown, .refl, ?_⟩
    cases child
    decide
  have entered : Grammar.cpp.role (source .cpp condText condText) outer = .enter ∧
      Grammar.cpp.role (source .cpp condText condText) inner = .enter := by
    cases child
    cases found
    cases first
    cases second
    decide +kernel
  have met : Grammar.cpp.Meets (source .cpp condText condText) body node :=
    .inside ⟨List.mem_of_getElem? first, entered.1⟩
      (.inside ⟨List.mem_of_getElem? second, entered.2⟩ (.here (List.mem_of_getElem? third)))
  have isFunction : writesFunction node ∧ plainKind node = .field ∧ ¬ Grammar.Cpp.isClassMember node ∧
      ∀ symbol ∈ Grammar.cpp.symbolsAt (source .cpp condText condText) .everything 1 node, symbol.name = "b" := by
    cases child
    cases found
    cases first
    cases second
    cases third
    decide +kernel
  obtain ⟨writes, isField, aside, names⟩ := isFunction
  obtain ⟨symbol, only, _, otherwise⟩ := Grammar.Cpp.makes_of_function met .refl writes 1
  have made := (only symbol).mpr rfl
  refine ⟨_, record, subject, body, node, extract_of_tag supported condText condText condTree,
    mem_symbols_of_child (List.mem_of_getElem? child) shown, isClass, recordAt, found, met, writes, symbol,
    recordAt.mem_children_iff.mpr ⟨body, node, found, made⟩, made, names symbol made.shown, ?_⟩
  rw [otherwise (mt Grammar.Cpp.isClassMember_iff.mpr aside), isField]

end Document

end CodeOutline
