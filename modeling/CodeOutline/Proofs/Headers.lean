import CodeOutline.Document
import CodeOutline.Proofs.Arrangement

set_option autoImplicit false

namespace CodeOutline

def Finding.Opens (finding : Finding) : Prop :=
  ∀ members, finding.members = some members → finding.declaration.body = .members

theorem Finding.opens_of_leaf {finding : Finding} (bare : finding.members = none) : finding.Opens :=
  fun _ found => (Option.some_ne_none _ (found.symm.trans bare)).elim

namespace Grammar

namespace C

theorem record_opens (source : Source) (cursor : Cursor) (kind : Kind) : (record source cursor kind).Opens := by
  intro members found
  have body : cursor.field? "body" = some members := found
  simp [record, Source.declare, body]

theorem declarations_open (source : Source) (cursor : Cursor) (kind : Kind) :
    ∀ finding ∈ declarations source cursor kind, finding.Opens := by
  intro finding member
  cases built_of_mem member with
  | line | enumerator => exact Finding.opens_of_leaf rfl
  | function => exact Finding.opens_of_leaf (members_of_functionDefinition source cursor kind)
  | record => exact record_opens source cursor kind

end C

namespace Cpp

theorem Built.opens {source : Source} {kind : Kind} {cursor : Cursor} {finding : Finding}
    (built : Built source kind cursor finding) : finding.Opens := by
  induction built with
  | nameSpace => exact fun _ _ => rfl
  | record => exact C.record_opens source _ kind
  -- A template leaves body and members of its subject alone.
  | template _ _ _ opens => exact opens
  | line => exact Finding.opens_of_leaf rfl
  | shared _ member => exact C.declarations_open source _ kind _ member

theorem declarations_open (source : Source) (cursor : Cursor) (kind : Kind) :
    ∀ finding ∈ declarations source cursor kind, finding.Opens :=
  fun _ member => (built_of_mem member).opens

end Cpp

theorem Java.findings_open (source : Source) (cursor : Cursor) (kind : Kind) (depth : Nat) :
    ∀ finding ∈ findings source cursor kind depth, finding.Opens := by
  intro finding member
  cases built_of_mem member with
  | type _ block => exact fun _ _ => block
  | field _ among => exact Finding.opens_of_leaf (members_of_fields among)
  | path | method | constructor | enumConstant => exact Finding.opens_of_leaf rfl

theorem Python.findings_open (source : Source) (cursor : Cursor) (kind : Kind) (depth : Nat) :
    ∀ finding ∈ findings source cursor kind depth, finding.Opens := by
  simp only [findings]
  split
  · exact List.forall_mem_singleton.mpr (Finding.opens_of_leaf rfl)
  · exact List.forall_mem_singleton.mpr (Finding.opens_of_leaf rfl)
  · exact List.forall_mem_singleton.mpr fun _ _ => rfl
  · exact List.forall_mem_nil _

namespace Swift

-- Types get their block from their kind, and the kind from their role.
theorem typeKind_defaultBody (source : Source) (cursor : Cursor) : (typeKind source cursor).defaultBody = .members := by
  rw [typeKind]
  split <;> rfl

theorem defaultBody_of_role {source : Source} {cursor : Cursor} {kind : Kind}
    (role : role source cursor = .declares kind)
    (isType : cursor.kind ∈ typeKinds) : kind.defaultBody = .members := by
  rw [Swift.role] at role
  split at role
  · cases role
  · simp only [typeKinds, List.mem_cons, List.not_mem_nil, or_false] at isType
    rcases isType with isClass | isProtocol
    · simp only [isClass, Role.declares.injEq] at role
      rw [← role]
      exact typeKind_defaultBody source cursor
    · simp only [isProtocol, Role.declares.injEq] at role
      rw [← role]
      rfl

theorem findings_open {source : Source} {cursor : Cursor} {kind : Kind} (depth : Nat)
    (role : role source cursor = .declares kind) : ∀ finding ∈ findings source cursor kind depth, finding.Opens := by
  intro finding member
  cases built_of_mem member with
  | type isType => exact fun _ _ => defaultBody_of_role role isType
  | line | function | special | property | typeAlias | enumEntry => exact Finding.opens_of_leaf rfl

end Swift

namespace Go

theorem typeSpec_opens (source : Source) (spec place : Cursor) (documentation : Option String) :
    (typeSpec source spec place documentation).Opens := by
  intro members found
  simp only [typeSpec] at found ⊢
  simp [Source.declare, found]

theorem typeDeclaration_opens (source : Source) (cursor : Cursor) :
    ∀ finding ∈ typeDeclaration source cursor, finding.Opens := by
  intro finding member
  obtain ⟨pair, _, rfl⟩ := List.mem_map.mp member
  dsimp only
  split
  · exact Finding.opens_of_leaf rfl
  · exact typeSpec_opens source _ _ _

theorem findings_open (source : Source) (cursor : Cursor) (kind : Kind) (depth : Nat) :
    ∀ finding ∈ findings source cursor kind depth, finding.Opens := by
  intro finding member
  cases built_of_mem member with
  | type _ among => exact typeDeclaration_opens source cursor finding among
  | value _ among => exact Finding.opens_of_leaf (members_of_valueDeclaration among)
  | package | imports | function | method | field | interface => exact Finding.opens_of_leaf rfl

end Go

namespace JavaScript

theorem declarator_opens {source : Source} {cursor declarator : Cursor} {statement : Option Cursor}
    {keyword : String} {finding : Finding}
    (made : declarator? source cursor statement keyword declarator = some finding) : finding.Opens := by
  rcases declarator?_cases made with ⟨kind, details, rfl⟩ | ⟨value, details, _, _, body, rfl⟩
  · exact Finding.opens_of_leaf rfl
  · intro members _
    simp only [Source.declare, body]
    rfl

theorem declaredVariables_open (source : Source) (cursor : Cursor) (statement : Option Cursor) :
    ∀ finding ∈ declaredVariables source cursor statement, finding.Opens := by
  unfold declaredVariables
  dsimp only
  split
  · exact List.forall_mem_singleton.mpr (Finding.opens_of_leaf rfl)
  · intro finding member
    obtain ⟨declarator, _, made⟩ := List.mem_filterMap.mp member
    exact declarator_opens made

theorem Built.opens {source : Source} {cursor : Cursor} {statement : Option Cursor} {finding : Finding}
    (built : Built source cursor statement finding) : finding.Opens := by
  induction built with
  | exported _ _ _ opens => exact opens
  | classDeclaration => exact fun _ _ => rfl
  | held _ among => exact declaredVariables_open source _ _ _ among
  | imports | exportedValue | exportLine | function | method | field => exact Finding.opens_of_leaf rfl

theorem declarations_open (source : Source) (cursor : Cursor) (statement : Option Cursor) :
    ∀ finding ∈ declarations source cursor statement, finding.Opens :=
  fun _ member => (built_of_mem member).opens

end JavaScript

namespace TypeScript

theorem own_opens {source : Source} {cursor : Cursor} {statement : Option Cursor} {finding : Finding}
    (made : own? source cursor statement = some finding) : finding.Opens := by
  cases built_of_own? made with
  | interface | enum | classDeclaration => exact fun _ _ => rfl
  | nameSpace =>
      intro members found
      have body : cursor.field? "body" = some members := found
      simp [nameSpace, Source.declare, body]
  | typeAlias | function | method | property | field | enumMember => exact Finding.opens_of_leaf rfl

theorem findings_open (source : Source) (cursor : Cursor) (kind : Kind) (depth : Nat) :
    ∀ finding ∈ findings source cursor kind depth, finding.Opens := by
  unfold findings
  dsimp only
  split
  · rename_i finding own
    refine List.forall_mem_singleton.mpr ?_
    split at own
    · obtain ⟨declaration, _, made⟩ := Option.bind_eq_some_iff.mp own
      exact own_opens made
    · exact own_opens own
  · exact JavaScript.declarations_open source cursor none

end TypeScript

theorem findings_open (language : Language) {source : Source} {depth : Nat} {cursor : Cursor} {finding : Finding}
    (finds : language.grammar.Finds source depth cursor finding) : finding.Opens := by
  obtain ⟨kind, role, made⟩ := finds
  cases language with
  | go => exact Go.findings_open source cursor kind depth finding made
  | python => exact Python.findings_open source cursor kind depth finding made
  | java => exact Java.findings_open source cursor kind depth finding made
  | javaScript => exact JavaScript.declarations_open source cursor none finding made
  | typeScript | tsx => exact TypeScript.findings_open source cursor kind depth finding made
  | swift => exact Swift.findings_open depth role finding made
  | c => exact C.declarations_open source cursor kind finding made
  | cpp => exact Cpp.declarations_open source cursor kind finding made

theorem body_of_among (language : Language) {source : Source} {visibility : Visibility} {depth : Nat}
    {parent : Cursor} {symbol : Symbol}
    (among : Symbol.Among (language.grammar.symbolsIn source visibility depth parent) symbol)
    (holding : symbol.children ≠ []) : symbol.body = .members := by
  obtain ⟨level, cursor, finding, _, finds, rfl⟩ := finding_of_among (membersHeld language) among
  cases found : finding.members with
  | none => exact absurd (children_of_leaf found) holding
  | some members => exact findings_open language finds members found

end Grammar

namespace Symbol

mutual
def preorder (depth : Nat) : Symbol → List (Nat × Declaration)
  | ⟨declaration, children⟩ => (depth, declaration) :: preorderAll (depth + 1) children
def preorderAll (depth : Nat) : List Symbol → List (Nat × Declaration)
  | [] => []
  | symbol :: rest => symbol.preorder depth ++ preorderAll depth rest
end

mutual
theorem length_preorder (depth : Nat) (symbol : Symbol) : (symbol.preorder depth).length = symbol.count := by
  cases symbol with
  | mk declaration children =>
      rw [preorder, count, List.length_cons, length_preorderAll (depth + 1) children, Nat.add_comm]
theorem length_preorderAll (depth : Nat) (symbols : List Symbol) :
    (preorderAll depth symbols).length = countAll symbols := by
  cases symbols with
  | nil => rfl
  | cons symbol rest =>
      rw [preorderAll, countAll, List.length_append, length_preorder depth symbol, length_preorderAll depth rest]
end

end Symbol

namespace Layout

def opening (style : Style) : Body → String
  | .bare => ""
  | .elided =>
      match style.elision with
      | .stub text => " " ++ text
      | .block _ => " \x7b"
      | .suite _ => ":"
  | .members =>
      match style.blocks with
      | .braces => " \x7b"
      | .colon => ":"

def headers (lines : List Line) : List Line :=
  lines.filter (·.part == .header)

def headerOf (style : Style) (options : Options) (entry : Nat × Declaration) : Line :=
  headerLine style options entry.1 entry.2 (opening style entry.2.body)

theorem headers_append (first second : List Line) : headers (first ++ second) = headers first ++ headers second :=
  List.filter_append ..

theorem headers_leadingLines (style : Style) (options : Options) (depth : Nat) (declaration : Declaration) :
    headers (leadingLines style options depth declaration) = [] := by
  apply List.filter_eq_nil_iff.mpr
  intro line member
  rcases List.mem_append.mp member with documentation | decorator
  · rw [documentationLines] at documentation
    split at documentation
    · obtain ⟨text, _, rfl⟩ := List.mem_map.mp documentation
      simp
    · cases documentation
  · obtain ⟨text, _, rfl⟩ := List.mem_map.mp decorator
    simp

theorem headers_elidedLines (style : Style) (options : Options) (depth : Nat) {declaration : Declaration}
    (body : declaration.body = .elided) :
    headers (elidedLines style options depth declaration) = [headerOf style options (depth, declaration)] := by
  unfold elidedLines headerOf opening
  rw [body]
  cases style.elision <;> rfl

theorem headers_blockLines (style : Style) (options : Options) (depth : Nat) {declaration : Declaration}
    (members : List Line) (body : declaration.body = .members) :
    headers (blockLines style options depth declaration members) =
      headerOf style options (depth, declaration) :: headers members := by
  unfold blockLines headerOf opening
  rw [body]
  cases style.blocks with
  | braces =>
      have closing : headers [⟨.closing, depth, "\x7d"⟩, gap] = [] := rfl
      change _ :: headers (members ++ _) = _
      rw [headers_append, closing, List.append_nil]
  | colon =>
      cases members with
      | nil => rfl
      | cons line rest =>
          have closing : headers [gap] = [] := rfl
          change _ :: headers (line :: rest ++ [gap]) = _
          rw [headers_append, closing, List.append_nil]

-- Members that a body would swallow do not exist, so the headers of a symbol are those of its whole tree.
mutual
theorem headers_lines (style : Style) (options : Options) (depth : Nat) (symbol : Symbol)
    (blocks : ∀ other, Symbol.Among [symbol] other → other.children ≠ [] → other.body = .members) :
    headers (lines style options depth symbol) = (symbol.preorder depth).map (headerOf style options) := by
  cases symbol with
  | mk declaration children =>
      have self := blocks ⟨declaration, children⟩ (.here List.mem_cons_self)
      have childless (leaf : declaration.body ≠ .members) : children = [] :=
        Classical.byContradiction fun some => leaf (self some)
      rw [lines, headers_append, headers_leadingLines, List.nil_append, Symbol.preorder, List.map_cons]
      cases body : declaration.body with
      | bare =>
          rw [childless (by simp [body])]
          simp [headers, headerLine, headerOf, opening, body, Symbol.preorderAll]
      | elided =>
          rw [childless (by simp [body])]
          exact headers_elidedLines style options depth body
      | members =>
          dsimp only
          rw [headers_blockLines style options depth _ body, headers_allLines style options (depth + 1) children]
          intro other among
          exact blocks other (.inside List.mem_cons_self among)
theorem headers_allLines (style : Style) (options : Options) (depth : Nat) (symbols : List Symbol)
    (blocks : ∀ other, Symbol.Among symbols other → other.children ≠ [] → other.body = .members) :
    headers (allLines style options depth symbols) = (Symbol.preorderAll depth symbols).map (headerOf style options) := by
  cases symbols with
  | nil => rfl
  | cons symbol rest =>
      rw [allLines, headers_append, Symbol.preorderAll, List.map_append, headers_lines style options depth symbol,
        headers_allLines style options depth rest]
      · intro other among
        exact blocks other (among.mono fun _ member => List.mem_cons_of_mem _ member)
      · intro other among
        exact blocks other (among.mono fun _ member => List.mem_singleton.mp member ▸ List.mem_cons_self)
end

end Layout

namespace Document

/-- The text has one header for each symbol, parents first, behind as many units of indentation as it is deep. -/
theorem extract_renders_every_symbol {tag : String} {language : Language}
    (supported : Language.ofTag? tag = some language) (parsed content : ByteArray) (tree : Node) :
    ∃ document, extract tag parsed content tree = .ok document ∧ document.language = language ∧
      (∀ symbol, Symbol.Among document.symbols symbol → symbol.children ≠ [] → symbol.body = .members) ∧
      ∀ options : Layout.Options,
        document.render options =
          String.join ((Layout.allLines language.style options 0 document.symbols).map (·.print language.style)) ∧
        (Layout.headers (Layout.allLines language.style options 0 document.symbols)).map (·.print language.style) =
          (Symbol.preorderAll 0 document.symbols).map (fun (depth, declaration) =>
            String.join (List.replicate depth language.style.unit) ++
              (declaration.signature ++ Layout.opening language.style declaration.body ++
                Layout.lineRemark language.style options declaration.startLine) ++ "\n") ∧
        (Layout.headers (Layout.allLines language.style options 0 document.symbols)).length = document.count := by
  have blocks : ∀ symbol, Symbol.Among (ofTree language parsed content tree).symbols symbol →
      symbol.children ≠ [] → symbol.body = .members := fun _ => Grammar.body_of_among language
  refine ⟨_, extract_of_tag supported parsed content tree, rfl, blocks, fun options => ⟨rfl, ?_, ?_⟩⟩
  · rw [Layout.headers_allLines language.style options 0 _ blocks, List.map_map]
    rfl
  · rw [Layout.headers_allLines language.style options 0 _ blocks, List.length_map, Symbol.length_preorderAll]
    rfl

def templateText : ByteArray :=
  "template <class T>\nstruct S \x7b void f() \x7b\x7d \x7d;\n".toUTF8

def templateTree : Node :=
  .plain "translation_unit" none 0 45
    [.plain "template_declaration" none 0 44
      [.plain "template_parameter_list" (some "parameters") 9 18 [],
        .plain "struct_specifier" none 19 43
          [.plain "type_identifier" (some "name") 26 27 [],
            .plain "field_declaration_list" (some "body") 28 43
              [.plain "function_definition" none 30 41
                [.plain "primitive_type" (some "type") 30 34 [],
                  .plain "function_declarator" (some "declarator") 35 38
                    [.plain "field_identifier" (some "declarator") 35 36 []],
                  .plain "compound_statement" (some "body") 39 41 []]]]]]

theorem templateTree_renders_every_symbol :
    ∃ document, extract "C++" templateText templateText templateTree = .ok document ∧ document.language = .cpp ∧
      (∀ symbol, Symbol.Among document.symbols symbol → symbol.children ≠ [] → symbol.body = .members) ∧
      ∀ options : Layout.Options,
        document.render options =
          String.join ((Layout.allLines (Language.style .cpp) options 0 document.symbols).map
            (·.print (Language.style .cpp))) ∧
        (Layout.headers (Layout.allLines (Language.style .cpp) options 0 document.symbols)).map
            (·.print (Language.style .cpp)) =
          (Symbol.preorderAll 0 document.symbols).map (fun (depth, declaration) =>
            String.join (List.replicate depth (Language.style .cpp).unit) ++
              (declaration.signature ++ Layout.opening (Language.style .cpp) declaration.body ++
                Layout.lineRemark (Language.style .cpp) options declaration.startLine) ++ "\n") ∧
        (Layout.headers (Layout.allLines (Language.style .cpp) options 0 document.symbols)).length = document.count :=
  extract_renders_every_symbol (by decide) templateText templateText templateTree

end Document

end CodeOutline
