import CodeOutline.Document
import CodeOutline.Json.Printer
import CodeOutline.Json.Reader

set_option autoImplicit false

namespace CodeOutline

namespace Json

def strings? : Json → Option (List String)
  | .arr items => items.mapM str?
  | _ => none

def uint32? (json : Json) : Option UInt32 :=
  (json.nat?.filter (· < UInt32.size)).map (·.toUInt32)

def required {α : Type} (read : Json → Option α) (key : String) (json : Json) : Option α :=
  (json.get? key).bind read

def defaulting {α : Type} (read : Json → Option α) (missing : α) (key : String) (json : Json) : Option α :=
  match json.get? key with
  | none => some missing
  | some value => read value

def nullable? : Json → Option (Option String)
  | .null => some none
  | json => json.str?.map some

def tag? : Json → Option String
  | .str name => some name
  | .obj [(name, .null)] => some name
  | _ => none

-- A record as an object. Values in an array belong to the keys in order, and the last ones may be left out.
def record? (keys : List String) : Json → Option Json
  | .obj entries => some (.obj entries)
  | .arr items => if items.length ≤ keys.length then some (.obj (keys.zip items)) else none
  | _ => none

theorem size_of_get? {key : String} {json value : Json} (found : json.get? key = some value) :
    sizeOf value < sizeOf json := by
  cases json with
  | obj entries =>
      obtain ⟨before, after, same, _⟩ := List.lookup_eq_some_iff.mp found
      have inside : (key, value) ∈ entries := by simp [same]
      have := List.sizeOf_lt_of_mem inside
      simp only [Prod.mk.sizeOf_spec, obj.sizeOf_spec] at this ⊢
      omega
  | _ => cases found

theorem record?_obj (keys : List String) (entries : List (String × Json)) :
    (obj entries).record? keys = some (obj entries) := rfl

theorem size_of_record {keys : List String} {key : String} {json record value : Json}
    (read : json.record? keys = some record) (found : record.get? key = some value) :
    sizeOf value < sizeOf json := by
  cases json with
  | obj entries =>
      cases read
      exact size_of_get? found
  | arr items =>
      simp only [record?] at read
      split at read
      · cases read
        obtain ⟨before, after, same, _⟩ := List.lookup_eq_some_iff.mp found
        have inside : (key, value) ∈ keys.zip items := by simp [same]
        have := List.sizeOf_lt_of_mem (List.of_mem_zip inside).2
        simp only [arr.sizeOf_spec]
        omega
      · cases read
  | _ => cases read

end Json

def Language.ofJson? (json : Json) : Option Language :=
  json.tag?.bind Language.ofName?

def Kind.ofJson? (json : Json) : Option Kind :=
  json.tag?.bind Kind.ofName?

def Body.ofJson? (json : Json) : Option Body :=
  json.tag?.bind Body.ofName?

def Layout.Options.ofJson? (json : Json) : Option Layout.Options := do
  let record ← json.record? ["line_numbers", "documentation"]
  let lineNumbers ← record.defaulting Json.bool? true "line_numbers"
  let documentation ← record.defaulting Json.bool? true "documentation"
  return ⟨lineNumbers, documentation⟩

namespace Declaration

def textEntry (key : String) : Option String → List (String × Json)
  | none => []
  | some text => [(key, .str text)]

def listEntry (key : String) : List Json → List (String × Json)
  | [] => []
  | items => [(key, .arr items)]

def entries (declaration : Declaration) : List (String × Json) :=
  [("name", .str declaration.name), ("kind", .str declaration.kind.name),
      ("signature", .str declaration.signature)] ++
    textEntry "doc_comment" declaration.documentation ++
    [("start_line", .ofNat declaration.startLine.toNat), ("start_column", .ofNat declaration.startColumn.toNat),
      ("end_line", .ofNat declaration.endLine.toNat)] ++
    listEntry "modifiers" (declaration.modifiers.map .str) ++
    listEntry "decorators" (declaration.decorators.map .str) ++
    textEntry "heritage" declaration.heritage ++ [("body", .str declaration.body.name)]

def ofRecord? (json : Json) : Option Declaration := do
  let name ← json.required Json.str? "name"
  let kind ← json.required Kind.ofJson? "kind"
  let signature ← json.required Json.str? "signature"
  let documentation ← json.defaulting Json.nullable? none "doc_comment"
  let startLine ← json.required Json.uint32? "start_line"
  let startColumn ← json.required Json.uint32? "start_column"
  let endLine ← json.required Json.uint32? "end_line"
  let modifiers ← json.defaulting Json.strings? [] "modifiers"
  let decorators ← json.defaulting Json.strings? [] "decorators"
  let heritage ← json.defaulting Json.nullable? none "heritage"
  let body ← json.required Body.ofJson? "body"
  return { name, kind, signature, documentation, startLine, startColumn, endLine, modifiers, decorators,
           heritage, body }

end Declaration

namespace Symbol

def keys : List String :=
  ["name", "kind", "signature", "doc_comment", "start_line", "start_column", "end_line", "modifiers", "decorators",
    "heritage", "body", "children"]

mutual
def toJson : Symbol → Json
  | ⟨declaration, children⟩ =>
      .obj (declaration.entries ++ Declaration.listEntry "children" (toJsonAll children))
def toJsonAll : List Symbol → List Json
  | [] => []
  | symbol :: rest => symbol.toJson :: toJsonAll rest
end

def ofJson? (json : Json) : Option Symbol :=
  match _ : json.record? keys with
  | none => none
  | some record =>
      match Declaration.ofRecord? record with
      | none => none
      | some declaration =>
          match _ : record.get? "children" with
          | none => some ⟨declaration, []⟩
          | some (.arr items) =>
              (items.attach.mapM fun item => ofJson? item.val).map fun children => ⟨declaration, children⟩
          | some _ => none
termination_by sizeOf json
decreasing_by
  have := Json.size_of_record ‹json.record? keys = _› ‹record.get? "children" = _›
  have := List.sizeOf_lt_of_mem item.property
  simp only [Json.arr.sizeOf_spec] at *
  omega

def listOfJson? : Json → Option (List Symbol)
  | .arr items => items.mapM ofJson?
  | _ => none

theorem ofJson?_eq (json : Json) :
    ofJson? json = (json.record? keys).bind fun record => (Declaration.ofRecord? record).bind fun declaration =>
      (record.defaulting listOfJson? [] "children").map fun children => ⟨declaration, children⟩ := by
  rw [ofJson?]
  split
  · simp_all
  · rename_i record read
    simp only [read, Option.bind_some]
    cases Declaration.ofRecord? record with
    | none => rfl
    | some declaration =>
        simp only [Option.bind_some, Json.defaulting]
        split
        · simp_all
        · rename_i items found
          have same : items.attach.mapM (fun item => ofJson? item.val) = items.mapM ofJson? := by
            conv => rhs; rw [← List.attach_map_subtype_val items, List.mapM_map]
            rfl
          simp only [found, listOfJson?, same]
        · rename_i value other found
          cases value <;> simp_all [listOfJson?]

end Symbol

inductive Unreadable where
  | language
  | symbols
deriving DecidableEq, Repr

namespace Document

def toJson (document : Document) : Json :=
  .obj [("language", .str document.language.name), ("symbols", .arr (Symbol.toJsonAll document.symbols))]

def exported (document : Document) : String :=
  document.toJson.print

def ofParts (language symbols : Json) : Except Unreadable Document :=
  match Language.ofJson? language with
  | none => .error .language
  | some language =>
      match Symbol.listOfJson? symbols with
      | none => .error .symbols
      | some symbols => .ok ⟨language, symbols⟩

def ofExported? (text : String) : Option Document := do
  let json ← Json.parse? text
  (ofParts (← json.get? "language") (← json.get? "symbols")).toOption

end Document

end CodeOutline
