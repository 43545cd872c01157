import CodeOutline.Document
import CodeOutline.Proofs.Nesting
import Mathlib.Data.List.Chain

set_option autoImplicit false

namespace CodeOutline.Grammar

namespace Cpp

structure Heads (template held : Cursor) : Prop where
  kind : template.kind = "template_declaration"
  subject : templateSubject? template = some held

def templateHeaders (source : Source) (templates : List Cursor) (subject : Cursor) : List String :=
  List.zipWith (fun template held => source.header template (some held)) templates (templates.tail ++ [subject])

def underTemplates (source : Source) (outer : Cursor) (inner : List Cursor) (subject : Cursor) (finding : Finding) :
    Finding :=
  let declaration := finding.declaration
  { finding with
    declaration :=
      { declaration with
        signature :=
          String.join ((templateHeaders source (outer :: inner) subject).map (· ++ " ")) ++ declaration.signature
        startLine := source.line outer.start
        startColumn := (source.column outer.start).toUInt32
        documentation := declaration.documentation.or ((outer :: inner).reverse.findSome? source.documentation?) } }

variable {source : Source} {outer subject : Cursor} {inner : List Cursor}

theorem role_of_heads (heads : Heads outer subject) : role source outer = role source subject := by
  rw [role_of_template heads.kind, heads.subject]
  rfl

theorem declarations_of_heads (heads : Heads outer subject) (kind : Kind) :
    declarations source outer kind = (declarations source subject kind).map (underTemplate source outer subject) := by
  rw [declarations_of_template heads.kind, heads.subject]
  rfl

theorem underTemplates_single (finding : Finding) :
    underTemplates source outer [] subject finding = underTemplate source outer subject finding := by
  simp [underTemplates, underTemplate, templateHeaders]

theorem underTemplates_cons (next : Cursor) (finding : Finding) :
    underTemplates source outer (next :: inner) subject finding =
      underTemplate source outer next (underTemplates source next inner subject finding) := by
  have headers : templateHeaders source (outer :: next :: inner) subject =
      source.header outer (some next) :: templateHeaders source (next :: inner) subject := rfl
  have comments : (outer :: next :: inner).reverse.findSome? source.documentation? =
      ((next :: inner).reverse.findSome? source.documentation?).or (source.documentation? outer) := by
    rw [List.reverse_cons, List.findSome?_append, List.findSome?_singleton]
  simp only [underTemplates, underTemplate, headers, comments, List.map_cons, String.join_cons, String.append_assoc,
    Option.or_assoc]

theorem role_of_chain (chain : List.IsChain Heads (outer :: inner ++ [subject])) :
    role source outer = role source subject := by
  induction inner generalizing outer with
  | nil => exact role_of_heads (List.isChain_cons_cons.mp chain).1
  | cons next rest ih =>
      obtain ⟨heads, below⟩ := List.isChain_cons_cons.mp chain
      exact (role_of_heads heads).trans (ih below)

theorem declarations_of_chain (chain : List.IsChain Heads (outer :: inner ++ [subject])) (kind : Kind) :
    declarations source outer kind =
      (declarations source subject kind).map (underTemplates source outer inner subject) := by
  induction inner generalizing outer with
  | nil =>
      rw [declarations_of_heads (List.isChain_cons_cons.mp chain).1]
      exact List.map_congr_left fun finding _ => (underTemplates_single finding).symm
  | cons next rest ih =>
      obtain ⟨heads, below⟩ := List.isChain_cons_cons.mp chain
      rw [declarations_of_heads heads, ih below, List.map_map]
      exact List.map_congr_left fun finding _ => (underTemplates_cons next finding).symm

/-- A chain of templates declares what the declaration at its end declares, at the place of the outermost template and
with the first comments from the declaration outwards. -/
theorem template_chain_declares_subject (chain : List.IsChain Heads (outer :: inner ++ [subject])) (source : Source) :
    Language.cpp.grammar.role source outer = Language.cpp.grammar.role source subject ∧
    ∀ kind depth, Language.cpp.grammar.findings source outer kind depth =
      (Language.cpp.grammar.findings source subject kind depth).map (underTemplates source outer inner subject) :=
  ⟨role_of_chain chain, fun kind _ => declarations_of_chain chain kind⟩

def mapText : ByteArray :=
  "// maps\ntemplate <class T>\ntemplate <class U>\nU map(T t) \x7b\x7d\n".toUTF8

def mapSource : Source :=
  Document.source .cpp mapText mapText

def mapTree : Node :=
  .plain "translation_unit" none 0 60
    [{ Node.plain "comment" none 0 7 [] with extra := true },
      .plain "template_declaration" none 8 59
        [.plain "template_parameter_list" (some "parameters") 17 26 [],
          .plain "template_declaration" none 27 59
            [.plain "template_parameter_list" (some "parameters") 36 45 [],
              .plain "function_definition" none 46 59
                [.plain "type_identifier" (some "type") 46 47 [],
                  .plain "function_declarator" (some "declarator") 48 56
                    [.plain "identifier" (some "declarator") 48 51 []],
                  .plain "compound_statement" (some "body") 57 59 []]]]]

theorem mapTree_declares_function :
    ∃ outer held subject, (Cursor.root mapTree).childOfKind? "template_declaration" = some outer ∧
      List.IsChain Heads [outer, held, subject] ∧
      Language.cpp.grammar.role mapSource outer = .declares .function ∧
      Language.cpp.grammar.role mapSource outer = Language.cpp.grammar.role mapSource subject ∧
      (∀ kind depth, Language.cpp.grammar.findings mapSource outer kind depth =
        (Language.cpp.grammar.findings mapSource subject kind depth).map
          (underTemplates mapSource outer [held] subject)) ∧
      (Language.cpp.grammar.findings mapSource outer .function 0).map
          (fun finding => (finding.declaration.signature, finding.declaration.documentation)) =
        [("template <class T> template <class U> U map(T t)", some "// maps")] := by
  obtain ⟨outer, held, subject, found, first, second⟩ : ∃ outer held subject,
      (Cursor.root mapTree).childOfKind? "template_declaration" = some outer ∧ Heads outer held ∧ Heads held subject :=
    ⟨_, _, _, rfl, ⟨rfl, rfl⟩, ⟨rfl, rfl⟩⟩
  have chain : List.IsChain Heads (outer :: [held] ++ [subject]) := .cons_cons first (.cons_cons second (.singleton _))
  obtain ⟨role, findings⟩ := template_chain_declares_subject chain mapSource
  refine ⟨outer, held, subject, found, chain, ?_, role, findings, ?_⟩
  · cases found
    decide +kernel
  · cases found
    decide +kernel

end Cpp

end CodeOutline.Grammar
