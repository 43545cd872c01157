import CodeOutline.Proofs.Dispatch
import CodeOutline.Proofs.Twins

set_option autoImplicit false

namespace CodeOutline

namespace Grammar

namespace TypeScript

-- Nothing at the node is for TypeScript alone: neither its kind, nor its place as a name in an enum, nor a bare name
-- that it exports.
def Untyped (cursor : Cursor) : Prop :=
  cursor.kind ∉ ownKinds ∧
    (cursor.kind = "property_identifier" → cursor.isUnder "enum_body" = false) ∧
    (cursor.kind = "export_statement" →
      ∀ declaration ∈ cursor.field? "declaration", declaration.kind ≠ "property_identifier")

instance : DecidablePred Untyped :=
  fun _ => inferInstanceAs (Decidable (_ ∧ _ ∧ _))

theorem role_of_untyped (source : Source) {cursor : Cursor} (untyped : Untyped cursor) :
    role source cursor = JavaScript.role source cursor := by
  obtain ⟨shared, noMember, _⟩ := untyped
  rw [role]
  split
  all_goals
    first
    | rfl
    | rename_i is
      rw [is] at shared
      exact absurd (by decide) shared
    | rename_i is
      rw [if_neg (by rw [noMember is]; decide)]

theorem exported?_of_untyped (source : Source) {cursor : Cursor} (untyped : Untyped cursor)
    (isExport : cursor.kind = "export_statement")
    (below : ∀ declaration, cursor.field? "declaration" = some declaration → Untyped declaration) :
    exported? source cursor = none := by
  rw [exported?]
  cases found : cursor.field? "declaration" with
  | none => rfl
  | some declaration =>
      have shared : declaration.kind ∉ "property_identifier" :: ownKinds := by
        rw [List.mem_cons, not_or]
        exact ⟨untyped.2.2 isExport declaration found, (below declaration found).1⟩
      exact own?_of_shared source (some cursor) shared

theorem inStep {source : Source} {cursor : Cursor} (untyped : ∀ target, cursor.Holds target → Untyped target) :
    InStep .javaScript .typeScript source Eq cursor := by
  have here := untyped cursor (.here cursor)
  have same : Grammar.typeScript.role source cursor = Grammar.javaScript.role source cursor :=
    role_of_untyped source here
  cases role : Grammar.javaScript.role source cursor with
  | skip => exact .skip role (same.trans role)
  | enter => exact .enter role (same.trans role)
  | declares kind =>
      have declared : JavaScript.role source cursor = .declares kind := role
      have shared := shared_of_role declared
      refine .declares role (same.trans role) fun depth => ?_
      have findings : TypeScript.findings source cursor kind depth = JavaScript.declarations source cursor none := by
        rw [TypeScript.findings]
        -- TypeScript looks first at what an export holds; here that is nothing of its own.
        by_cases isExport : cursor.kind = "export_statement"
        · simp only [if_pos isExport,
            exported?_of_untyped source here isExport fun declaration found => untyped declaration (.field? found)]
        · simp only [if_neg isExport, own?_of_shared source none shared]
      change List.Forall₂ _ (JavaScript.declarations source cursor none) (TypeScript.findings source cursor kind depth)
      rw [findings, List.forall₂_same]
      exact fun finding _ => ⟨rfl, rfl⟩

end TypeScript

end Grammar

namespace Document

theorem symbols_of_untyped (parsed content : ByteArray) {tree : Node}
    (untyped : ∀ cursor ∈ Listing.cursors tree, Grammar.TypeScript.Untyped cursor) :
    (ofTree .javaScript parsed content tree).symbols = (ofTree .typeScript parsed content tree).symbols := by
  have inStep : ∀ cursor, (Cursor.root tree).Holds cursor →
      Grammar.InStep .javaScript .typeScript (source .javaScript parsed content) Eq cursor :=
    fun cursor inside => Grammar.TypeScript.inStep fun target deeper =>
      untyped target (Listing.mem_below_of_holds (inside.trans deeper))
  have twins := Grammar.symbolsIn_twins (Grammar.membersHeld .javaScript) inStep 0 (.root tree) (.here _)
  refine Symbol.eq_of_twins (fun left right shared => ?_) _ _ twins
  obtain ⟨_, _, _, _, same⟩ := shared
  exact same

theorem extract_typed_as_plain {plainTag typedTag markupTag : String}
    (plain : Language.ofTag? plainTag = some .javaScript) (typed : Language.ofTag? typedTag = some .typeScript)
    (markup : Language.ofTag? markupTag = some .tsx) (parsed content : ByteArray) (tree : Node) :
    ∃ javaScript typeScript tsx,
      extract plainTag parsed content tree = .ok javaScript ∧
      extract typedTag parsed content tree = .ok typeScript ∧
      extract markupTag parsed content tree = .ok tsx ∧
      (typeScript.symbols = tsx.symbols ∧ ∀ options, typeScript.render options = tsx.render options) ∧
      ((∀ cursor ∈ Listing.cursors tree, Grammar.TypeScript.Untyped cursor) →
        javaScript.symbols = typeScript.symbols ∧ ∀ options, javaScript.render options = typeScript.render options) := by
  refine ⟨_, _, _, extract_of_tag plain parsed content tree, extract_of_tag typed parsed content tree,
    extract_of_tag markup parsed content tree, ⟨rfl, fun options => rfl⟩, fun untyped => ?_⟩
  have same := symbols_of_untyped parsed content untyped
  refine ⟨same, fun options => ?_⟩
  rw [render, render, same]
  rfl

def heldClassText : ByteArray :=
  "export const A = class \x7b m() \x7b\x7d \x7d;\n".toUTF8

def heldClass : Node :=
  .plain "program" none 0 35
    [.plain "export_statement" none 0 34
      [.plain "lexical_declaration" (some "declaration") 7 34
        [{ Node.plain "const" (some "kind") 7 12 [] with named := false },
          .plain "variable_declarator" none 13 33
            [.plain "identifier" (some "name") 13 14 [],
              .plain "class" (some "value") 17 33
                [.plain "class_body" (some "body") 23 33
                  [.plain "method_definition" none 25 31
                    [.plain "property_identifier" (some "name") 25 26 [],
                      .plain "formal_parameters" (some "parameters") 26 28 [],
                      .plain "statement_block" (some "body") 29 31 []]]]]]]]

theorem heldClass_typed_as_plain :
    (∀ cursor ∈ Listing.cursors heldClass, Grammar.TypeScript.Untyped cursor) ∧
    (ofTree .javaScript heldClassText heldClassText heldClass).count = 2 ∧
    ∃ javaScript typeScript tsx,
      extract "js" heldClassText heldClassText heldClass = .ok javaScript ∧
      extract "ts" heldClassText heldClassText heldClass = .ok typeScript ∧
      extract "tsx" heldClassText heldClassText heldClass = .ok tsx ∧
      (typeScript.symbols = tsx.symbols ∧ ∀ options, typeScript.render options = tsx.render options) ∧
      javaScript.symbols = typeScript.symbols ∧ ∀ options, javaScript.render options = typeScript.render options := by
  have untyped : ∀ cursor ∈ Listing.cursors heldClass, Grammar.TypeScript.Untyped cursor := by decide +kernel
  have plain : Language.ofTag? "js" = some .javaScript := by decide
  have typed : Language.ofTag? "ts" = some .typeScript := by decide
  have markup : Language.ofTag? "tsx" = some .tsx := by decide
  obtain ⟨javaScript, typeScript, tsx, first, second, third, always, agree⟩ :=
    extract_typed_as_plain plain typed markup heldClassText heldClassText heldClass
  exact ⟨untyped, by decide +kernel, javaScript, typeScript, tsx, first, second, third, always, agree untyped⟩

end Document

def Finding.withKind (finding : Finding) (kind : Kind) : Finding :=
  { finding with declaration := { finding.declaration with kind } }

namespace Grammar

namespace C

theorem role_ne_method (source : Source) (cursor : Cursor) : role source cursor ≠ .declares .method := by
  rw [role]
  split
  · decide
  · split <;> first | decide | split <;> decide

theorem role_of_function (source : Source) {cursor : Cursor}
    (isFunction : cursor.kind ∈ ["function_definition", "declaration", "field_declaration"]) :
    ∃ kind, role source cursor = .declares kind := by
  simp only [List.mem_cons, List.not_mem_nil, or_false] at isFunction
  rcases isFunction with is | is | is
  all_goals
    have code : ¬ cursor.isComment := by
      intro isComment
      have named : Text.contains cursor.kind "comment" := isComment
      rw [is] at named
      exact absurd named (by decide)
    rw [role, if_neg code]
    simp only [is]
    exact ⟨_, rfl⟩

theorem declarations_withKind (source : Source) {cursor : Cursor} (kind other : Kind)
    (isFunction : cursor.kind ∈ ["function_definition", "declaration", "field_declaration"]) :
    declarations source cursor other = (declarations source cursor kind).map (·.withKind other) := by
  simp only [List.mem_cons, List.not_mem_nil, or_false] at isFunction
  rcases isFunction with is | is | is <;> simp only [declarations, is]
  · rw [functionDefinition, functionDefinition]
    split <;> rfl
  · rfl
  · rfl

end C

namespace Cpp

def writesMethod (cursor : Cursor) : Bool :=
  cursor.isUnder "field_declaration_list" && writesFunction cursor

-- What C++ makes of a declaration of C: the same but for the kind, which is another one for methods only.
structure Retells (origin : Cursor) (left right : Declaration) : Prop where
  alike : right = { left with kind := right.kind }
  differs : left.kind ≠ right.kind ↔ right.kind = .method
  method : right.kind = .method ↔ writesMethod origin

section Shared

variable (source : Source) {tree : Node} {origin : Cursor}
variable (shared : ∀ cursor, (Cursor.root tree).Holds cursor → cursor.kind ∉ ownKinds)
variable (inside : (Cursor.root tree).Holds origin)

include shared inside

theorem isClassMember_of_shared : isClassMember origin = origin.isUnder "field_declaration_list" := by
  rw [isClassMember, Cursor.isUnder]
  cases found : origin.parent? with
  | none => rfl
  | some parent =>
      have noTemplate : parent.kind ≠ "template_declaration" := by
        intro is
        have own := shared parent (inside.parent_of_root found)
        rw [is] at own
        exact own (by decide)
      exact if_neg noTemplate

theorem role_of_origin :
    role source origin = if writesMethod origin then .declares .method else C.role source origin := by
  rw [role_of_shared source (shared origin inside), isClassMember_of_shared shared inside]
  rfl

theorem method_iff {declaration : Declaration} (declares : Grammar.cpp.Declares source origin declaration) :
    declaration.kind = .method ↔ writesMethod origin := by
  obtain ⟨depth, finding, ⟨kind, declared, made⟩, rfl⟩ := declares
  have kept := (declarations_of_role declared).kinds finding made
  have role : Cpp.role source origin = .declares kind := declared
  rw [role_of_origin source shared inside] at role
  rw [kept]
  split at role
  · rename_i writes
    cases role
    exact iff_of_true rfl writes
  · rename_i writes
    refine iff_of_false ?_ writes
    rintro rfl
    exact C.role_ne_method source origin role

theorem inStep : InStep .c .cpp source (Retells origin) origin := by
  have role := role_of_origin source shared inside
  by_cases writes : writesMethod origin
  -- C declares a function or a field here. Neither builder asks the kind for a body, so nothing else changes with it.
  · have function := kind_of_writesFunction (Bool.and_eq_true_iff.mp writes).2
    obtain ⟨kind, declared⟩ := C.role_of_function source function
    have notMethod : kind ≠ .method := fun is => C.role_ne_method source origin (is ▸ declared)
    rw [if_pos writes] at role
    refine .declares declared role fun depth => ?_
    change List.Forall₂ _ (C.declarations source origin kind) (Cpp.declarations source origin .method)
    rw [declarations_of_shared source .method (shared origin inside),
      C.declarations_withKind source kind .method function, List.forall₂_map_right_iff, List.forall₂_same]
    intro finding made
    have kept := (C.declarations_of_role declared).kinds finding made
    have differs : finding.declaration.kind ≠ .method := by rwa [kept]
    exact ⟨⟨rfl, iff_of_true differs rfl, iff_of_true rfl writes⟩, rfl⟩
  · rw [if_neg writes] at role
    cases declared : Grammar.c.role source origin with
    | skip => exact .skip declared (role.trans declared)
    | enter => exact .enter declared (role.trans declared)
    | declares kind =>
        refine .declares declared (role.trans declared) fun depth => ?_
        change List.Forall₂ _ (C.declarations source origin kind) (Cpp.declarations source origin kind)
        rw [declarations_of_shared source kind (shared origin inside), List.forall₂_same]
        intro finding made
        have kept := (C.declarations_of_role declared).kinds finding made
        have notMethod : finding.declaration.kind ≠ .method := by
          rw [kept]
          exact fun is => C.role_ne_method source origin (is ▸ declared)
        exact ⟨⟨rfl, iff_of_false (fun differs => differs rfl) notMethod, iff_of_false notMethod writes⟩, rfl⟩

end Shared

end Cpp

end Grammar

namespace Document

/-- Only the kind may differ: C++ calls the functions in the body of a structure methods. -/
theorem extract_cpp_as_c {plainTag otherTag : String} (plain : Language.ofTag? plainTag = some .c)
    (other : Language.ofTag? otherTag = some .cpp) (parsed content : ByteArray) {tree : Node}
    (shared : ∀ cursor ∈ Listing.cursors tree, cursor.kind ∉ Grammar.Cpp.ownKinds) :
    ∃ c cpp, extract plainTag parsed content tree = .ok c ∧ extract otherTag parsed content tree = .ok cpp ∧
      List.Forall₂ (Symbol.Twin (Grammar.Shared .c .cpp (source .cpp parsed content) (.root tree) Grammar.Cpp.Retells))
        c.symbols cpp.symbols ∧
      (∀ origin declaration, (Cursor.root tree).Holds origin →
        Grammar.cpp.Declares (source .cpp parsed content) origin declaration →
        (declaration.kind = .method ↔ Grammar.Cpp.writesMethod origin)) ∧
      ∀ options, c.render options = cpp.render options := by
  have everywhere : ∀ cursor, (Cursor.root tree).Holds cursor → cursor.kind ∉ Grammar.Cpp.ownKinds :=
    fun cursor inside => shared cursor (Listing.mem_below_of_holds inside)
  have inStep : ∀ cursor, (Cursor.root tree).Holds cursor →
      Grammar.InStep .c .cpp (source .cpp parsed content) (Grammar.Cpp.Retells cursor) cursor :=
    fun cursor inside => Grammar.Cpp.inStep _ everywhere inside
  have twins := Grammar.symbolsIn_twins (Grammar.membersHeld .c) inStep 0 (.root tree) (.here _)
  refine ⟨_, _, extract_of_tag plain parsed content tree, extract_of_tag other parsed content tree, twins, ?_, ?_⟩
  · intro origin declaration inside declares
    exact Grammar.Cpp.method_iff _ everywhere inside declares
  · intro options
    refine Layout.render_of_twins (fun left right related => ?_) (Language.style .cpp) options twins
    obtain ⟨_, _, _, _, retells⟩ := related
    exact retells.alike

def structureText : ByteArray :=
  "struct S \x7b int f(void); int g; \x7d;\nint h(void) \x7b\x7d\n".toUTF8

def structureTree : Node :=
  .plain "translation_unit" none 0 49
    [.plain "struct_specifier" none 0 32
      [.plain "type_identifier" (some "name") 7 8 [],
        .plain "field_declaration_list" (some "body") 9 32
          [.plain "field_declaration" none 11 23
            [.plain "primitive_type" (some "type") 11 14 [],
              .plain "function_declarator" (some "declarator") 15 22
                [.plain "field_identifier" (some "declarator") 15 16 [],
                  .plain "parameter_list" (some "parameters") 16 22 []]],
            .plain "field_declaration" none 24 30
              [.plain "primitive_type" (some "type") 24 27 [],
                .plain "field_identifier" (some "declarator") 28 29 []]]],
      .plain "function_definition" none 34 48
        [.plain "primitive_type" (some "type") 34 37 [],
          .plain "function_declarator" (some "declarator") 38 45
            [.plain "identifier" (some "declarator") 38 39 [],
              .plain "parameter_list" (some "parameters") 39 45 []],
          .plain "compound_statement" (some "body") 46 48 []]]

theorem structureTree_cpp_as_c :
    ((ofTree .c structureText structureText structureTree).symbols.flatMap (·.children)).map (·.kind) =
      [.field, .field] ∧
    ((ofTree .cpp structureText structureText structureTree).symbols.flatMap (·.children)).map (·.kind) =
      [.method, .field] ∧
    ∃ c cpp, extract "c" structureText structureText structureTree = .ok c ∧
      extract "c++" structureText structureText structureTree = .ok cpp ∧
      List.Forall₂ (Symbol.Twin (Grammar.Shared .c .cpp (source .cpp structureText structureText) (.root structureTree)
        Grammar.Cpp.Retells)) c.symbols cpp.symbols ∧
      (∀ origin declaration, (Cursor.root structureTree).Holds origin →
        Grammar.cpp.Declares (source .cpp structureText structureText) origin declaration →
        (declaration.kind = .method ↔ Grammar.Cpp.writesMethod origin)) ∧
      ∀ options, c.render options = cpp.render options := by
  have plain : Language.ofTag? "c" = some .c := by decide
  have other : Language.ofTag? "c++" = some .cpp := by decide
  have shared : ∀ cursor ∈ Listing.cursors structureTree, cursor.kind ∉ Grammar.Cpp.ownKinds := by decide +kernel
  exact ⟨by decide +kernel, by decide +kernel, extract_cpp_as_c plain other structureText structureText shared⟩

end Document

end CodeOutline
