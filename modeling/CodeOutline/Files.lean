import CodeOutline.Document
import CodeOutline.Folder
import CodeOutline.Language.Detection

set_option autoImplicit false

namespace CodeOutline

inductive FileError where
  | unknownExtension (extension : String)
  | absent (name : String)
  | directory (name : String)
  | unsupported (name : String) (cause : UnsupportedLanguage)
deriving DecidableEq, Repr

def FileError.message : FileError → String
  | unknownExtension extension => "Unsupported file extension: " ++ extension
  | absent name => "Failed to read " ++ name ++ ": No such file or directory (os error 2)"
  | directory name => "Failed to read " ++ name ++ ": Is a directory (os error 21)"
  | unsupported name cause => "Failed to extract outline from " ++ name ++ ": " ++ cause.message

abbrev Parser :=
  Language → String → Node

def Document.ofText (parse : Parser) (tag text : String) : Except UnsupportedLanguage Document :=
  (Language.resolve tag).map fun language => .ofTree language text.toUTF8 text.toUTF8 (parse language text)

namespace Files

def tagOf (name : String) (tag : Option String) : Except FileError String :=
  match tag with
  | some tag => .ok tag
  | none =>
      match Language.ofPath? name with
      | some language => .ok language.name
      | none => .error (.unknownExtension ((Language.pathExtension? name).getD ""))

def read (folder : Folder) (name : String) : Except FileError String :=
  match folder.get? name with
  | none => .error (.absent name)
  | some .directory => .error (.directory name)
  | some (.file bytes) => .ok (Utf8.decode bytes)

def outline (parse : Parser) (folder : Folder) (name : String) (tag : Option String) : Except FileError String := do
  let tag ← tagOf name tag
  let text ← read folder name
  let document ← (Document.ofText parse tag text).mapError (.unsupported name)
  return document.outline

end Files

end CodeOutline
