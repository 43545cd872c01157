import CodeOutline.Language

set_option autoImplicit false

namespace CodeOutline

structure Document where
  language : Language
  symbols : List Symbol
deriving Repr, Inhabited

namespace Document

def source (language : Language) (parsed content : ByteArray) : Source :=
  .ofBytes language.spacing parsed content

def ofTree (language : Language) (parsed content : ByteArray) (tree : Node) : Document :=
  ⟨language,
    language.grammar.symbolsIn (source language parsed content) language.visibility 0 (.root tree)⟩

def extract (tag : String) (parsed content : ByteArray) (tree : Node) :
    Except UnsupportedLanguage Document :=
  (Language.resolve tag).map fun language => ofTree language parsed content tree

theorem extract_of_tag {tag : String} {language : Language} (supported : Language.ofTag? tag = some language)
    (parsed content : ByteArray) (tree : Node) :
    extract tag parsed content tree = .ok (ofTree language parsed content tree) := by
  simp only [extract, Language.resolve, supported]
  rfl

def count (document : Document) : Nat :=
  Symbol.countAll document.symbols

def render (document : Document) (options : Layout.Options) : String :=
  Layout.render document.language.style options document.symbols

def outline (document : Document) : String :=
  document.render {}

end Document

end CodeOutline
