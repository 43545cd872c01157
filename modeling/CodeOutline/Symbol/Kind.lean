set_option autoImplicit false

namespace CodeOutline

inductive Kind where
  | package
  | importLine
  | exportLine
  | define
  | function
  | method
  | type
  | struct
  | interface
  | classType
  | enum
  | enumConstant
  | field
  | var
  | const
  | typeAlias
  | subscript
  | initializer
  | deinitializer
  | nameSpace
  | extension
deriving DecidableEq, Repr, Inhabited

namespace Kind

def all : List Kind :=
  [package, importLine, exportLine, define, function, method, type, struct, interface, classType, enum,
    enumConstant, field, var, const, typeAlias, subscript, initializer, deinitializer, nameSpace, extension]

def name : Kind → String
  | package => "package"
  | importLine => "import"
  | exportLine => "export"
  | define => "define"
  | function => "function"
  | method => "method"
  | type => "type"
  | struct => "struct"
  | interface => "interface"
  | classType => "class"
  | enum => "enum"
  | enumConstant => "enum_constant"
  | field => "field"
  | var => "variable"
  | const => "constant"
  | typeAlias => "type_alias"
  | subscript => "subscript"
  | initializer => "initializer"
  | deinitializer => "deinitializer"
  | nameSpace => "namespace"
  | extension => "extension"

def ofName? (text : String) : Option Kind :=
  all.find? (·.name == text)

end Kind

inductive Body where
  | bare
  | elided
  | members
deriving DecidableEq, Repr, Inhabited

namespace Body

def all : List Body :=
  [bare, elided, members]

def name : Body → String
  | bare => "bare"
  | elided => "elided"
  | members => "members"

def ofName? (text : String) : Option Body :=
  all.find? (·.name == text)

end Body

def Kind.defaultBody : Kind → Body
  | function | method | subscript | initializer | deinitializer => .elided
  | struct | interface | classType | enum | nameSpace | extension => .members
  | _ => .bare

end CodeOutline
