import CodeOutline.Grammar.Cpp
import CodeOutline.Grammar.Go
import CodeOutline.Grammar.Java
import CodeOutline.Grammar.Python
import CodeOutline.Grammar.Swift
import CodeOutline.Grammar.TypeScript
import CodeOutline.Layout

set_option autoImplicit false

namespace CodeOutline

inductive Language where
  | go
  | python
  | java
  | javaScript
  | typeScript
  | tsx
  | swift
  | c
  | cpp
deriving DecidableEq, Repr, Inhabited

namespace Language

def all : List Language :=
  [go, python, java, javaScript, typeScript, tsx, swift, c, cpp]

def name : Language → String
  | go => "go"
  | python => "python"
  | java => "java"
  | javaScript => "javascript"
  | typeScript => "typescript"
  | tsx => "tsx"
  | swift => "swift"
  | c => "c"
  | cpp => "cpp"

def ofName? (text : String) : Option Language :=
  all.find? (·.name == text)

def aliases : Language → List String
  | go => ["golang"]
  | python => ["py"]
  | javaScript => ["js", "jsx"]
  | typeScript => ["ts"]
  | cpp => ["c++"]
  | java | tsx | swift | c => []

def ofTag? (tag : String) : Option Language :=
  let tag := Text.lowerAscii (Text.trim tag)
  all.find? fun language => language.name == tag || language.aliases.contains tag

def extensions : Language → List String
  | go => ["go"]
  | python => ["py", "pyi"]
  | java => ["java"]
  | javaScript => ["js", "jsx", "mjs", "cjs"]
  | typeScript => ["ts", "mts", "cts"]
  | tsx => ["tsx"]
  | swift => ["swift"]
  | c => ["c", "h"]
  | cpp => ["cpp", "cxx", "cc", "hpp", "hxx", "hh"]

def grammar : Language → Grammar
  | go => .go
  | python => .python
  | java => .java
  | javaScript => .javaScript
  | typeScript | tsx => .typeScript
  | swift => .swift
  | c => .c
  | cpp => .cpp

def spacing : Language → Spacing
  | c | cpp | swift => .folded
  | _ => .verbatim

def visibility : Language → Visibility
  | python => .hideUnderscore
  | _ => .everything

def braceLeaders : List String :=
  ["//", "/*", "*"]

def style : Language → Layout.Style
  | go | java | c | cpp => ⟨"\t", "//", braceLeaders, .braces, .stub "\x7b //... \x7d"⟩
  | python => ⟨"    ", "#", ["#"], .colon, .suite "..."⟩
  | javaScript | typeScript | tsx => ⟨"  ", "//", braceLeaders, .braces, .block "// ..."⟩
  | swift => ⟨"  ", "//", braceLeaders, .braces, .stub "\x7b ... \x7d"⟩

end Language

structure UnsupportedLanguage where
  tag : String
deriving DecidableEq, Repr

def UnsupportedLanguage.message (error : UnsupportedLanguage) : String :=
  "unsupported language: '" ++ error.tag ++ "'. Supported languages: " ++
    String.intercalate ", " (Language.all.map (·.name))

def Language.resolve (tag : String) : Except UnsupportedLanguage Language :=
  match Language.ofTag? tag with
  | some language => .ok language
  | none => .error ⟨tag⟩

end CodeOutline
