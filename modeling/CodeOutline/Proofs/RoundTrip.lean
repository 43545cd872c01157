import CodeOutline.Interchange
import CodeOutline.Proofs.JsonText

set_option autoImplicit false

namespace CodeOutline

namespace Json

theorem nat?_ofNat (n : Nat) : (ofNat n).nat? = some n := by
  obtain ⟨first, others, same, _, _⟩ := Text.digits_head n
  have written : Text.numeral n ≠ "" := by
    intro empty
    have none : Text.digits n = [] := by simpa [Text.numeral] using congrArg String.toList empty
    rw [same] at none
    cases none
  have digits : (Text.numeral n).toList.all Char.isDigit := by
    rw [Text.numeral, String.toList_ofList, List.all_eq_true]
    exact fun _ => Text.isDigit_of_mem_digits
  rw [ofNat, nat?, if_pos ⟨written, digits⟩, Text.numeral, String.toList_ofList, Text.valueOf_digits]

theorem uint32?_ofNat (n : UInt32) : (ofNat n.toNat).uint32? = some n := by
  simp [uint32?, nat?_ofNat, UInt32.toNat_lt_size]

theorem str?_str (text : String) : (str text).str? = some text := rfl

theorem strings?_map (texts : List String) : (arr (texts.map .str)).strings? = some texts := by
  rw [strings?]
  induction texts with
  | nil => rfl
  | cons text rest ih => simp [List.mapM_cons, str?, ih]

section Records

variable {α : Type} {json : Json} {key : String}

theorem required_of_get? {read : Json → Option α} {written : Json} {value : α} (found : json.get? key = some written)
    (reads : read written = some value) : json.required read key = some value := by
  rw [required, found, Option.bind_some, reads]

theorem defaulting_text {text : Option String} (found : json.get? key = text.map .str) :
    json.defaulting nullable? none key = some text := by
  cases text with
  | none => simp [defaulting, found]
  | some text => simp [defaulting, found, nullable?, str?]

theorem defaulting_list {read : Json → Option (List α)} {items : List Json} {values : List α}
    (found : json.get? key = if items = [] then none else some (.arr items)) (reads : read (.arr items) = some values)
    (empty : items = [] → values = []) : json.defaulting read [] key = some values := by
  cases items with
  | nil => simp [defaulting, found, empty]
  | cons item rest => simpa [defaulting, found] using reads

end Records

end Json

theorem Kind.ofJson?_name (kind : Kind) : Kind.ofJson? (.str kind.name) = some kind := by
  cases kind <;> rfl

theorem Body.ofJson?_name (body : Body) : Body.ofJson? (.str body.name) = some body := by
  cases body <;> rfl

theorem Language.ofJson?_name (language : Language) : Language.ofJson? (.str language.name) = some language := by
  cases language <;> rfl

namespace Declaration

theorem lookup_textEntry (key label : String) (text : Option String) :
    (textEntry label text).lookup key = if key = label then text.map .str else none := by
  by_cases same : key = label
  · cases text <;> simp [textEntry, same]
  · cases text <;> simp [textEntry, List.lookup_cons, same, beq_false_of_ne same]

theorem lookup_listEntry (key label : String) (items : List Json) :
    (listEntry label items).lookup key =
      if key = label then if items = [] then none else some (.arr items) else none := by
  by_cases same : key = label
  · cases items <;> simp [listEntry, same]
  · cases items <;> simp [listEntry, List.lookup_cons, same, beq_false_of_ne same]

theorem ofRecord?_entries (declaration : Declaration) (items : List Json) :
    ofRecord? (.obj (declaration.entries ++ listEntry "children" items)) = some declaration := by
  generalize written : Json.obj (declaration.entries ++ listEntry "children" items) = json
  have get (key : String) : json.get? key =
      (declaration.entries.lookup key).or ((listEntry "children" items).lookup key) := by
    rw [← written]
    exact List.lookup_append
  simp only [entries, List.lookup_append, lookup_textEntry, lookup_listEntry, List.lookup_cons, List.lookup_nil] at get
  have name : json.required Json.str? "name" = some declaration.name :=
    Json.required_of_get? (by simp [get]) (Json.str?_str declaration.name)
  have kind : json.required Kind.ofJson? "kind" = some declaration.kind :=
    Json.required_of_get? (by simp [get]) (Kind.ofJson?_name declaration.kind)
  have signature : json.required Json.str? "signature" = some declaration.signature :=
    Json.required_of_get? (by simp [get]) (Json.str?_str declaration.signature)
  have documentation : json.defaulting Json.nullable? none "doc_comment" = some declaration.documentation :=
    Json.defaulting_text (by simp [get])
  have startLine : json.required Json.uint32? "start_line" = some declaration.startLine :=
    Json.required_of_get? (by simp [get]) (Json.uint32?_ofNat declaration.startLine)
  have startColumn : json.required Json.uint32? "start_column" = some declaration.startColumn :=
    Json.required_of_get? (by simp [get]) (Json.uint32?_ofNat declaration.startColumn)
  have endLine : json.required Json.uint32? "end_line" = some declaration.endLine :=
    Json.required_of_get? (by simp [get]) (Json.uint32?_ofNat declaration.endLine)
  have modifiers : json.defaulting Json.strings? [] "modifiers" = some declaration.modifiers :=
    Json.defaulting_list (by simp [get]) (Json.strings?_map declaration.modifiers) (by simp)
  have decorators : json.defaulting Json.strings? [] "decorators" = some declaration.decorators :=
    Json.defaulting_list (by simp [get]) (Json.strings?_map declaration.decorators) (by simp)
  have heritage : json.defaulting Json.nullable? none "heritage" = some declaration.heritage :=
    Json.defaulting_text (by simp [get])
  have body : json.required Body.ofJson? "body" = some declaration.body :=
    Json.required_of_get? (by simp [get]) (Body.ofJson?_name declaration.body)
  simp only [ofRecord?, name, kind, signature, documentation, startLine, startColumn, endLine, modifiers, decorators,
    heritage, body]
  rfl

theorem get?_children (declaration : Declaration) (items : List Json) :
    (Json.obj (declaration.entries ++ listEntry "children" items)).get? "children" =
      if items = [] then none else some (.arr items) := by
  simp [Json.get?, entries, List.lookup_append, lookup_textEntry, lookup_listEntry, List.lookup_cons]

theorem textEntry_natural (key : String) (text : Option String) : ∀ entry ∈ textEntry key text, entry.2.Natural := by
  cases text with
  | none => exact List.forall_mem_nil _
  | some text => exact List.forall_mem_singleton.mpr (.str text)

theorem listEntry_natural (key : String) {items : List Json} (each : ∀ item ∈ items, item.Natural) :
    ∀ entry ∈ listEntry key items, entry.2.Natural := by
  cases items with
  | nil => exact List.forall_mem_nil _
  | cons item rest => exact List.forall_mem_singleton.mpr (.arr each)

theorem texts_natural (texts : List String) : ∀ item ∈ texts.map Json.str, item.Natural :=
  List.forall_mem_map.mpr fun text _ => .str text

theorem entries_natural (declaration : Declaration) : ∀ entry ∈ declaration.entries, entry.2.Natural := by
  have texts := textEntry_natural
  have lists := fun key texts => listEntry_natural key (texts_natural texts)
  simp only [entries, List.forall_mem_append, List.forall_mem_cons, List.not_mem_nil, false_implies, implies_true,
    and_true]
  exact ⟨⟨⟨⟨⟨⟨⟨.str _, .str _, .str _⟩, texts _ _⟩, .number _, .number _, .number _⟩, lists _ _⟩, lists _ _⟩,
    texts _ _⟩, .str _⟩

end Declaration

namespace Symbol

mutual
theorem ofJson?_toJson (symbol : Symbol) : ofJson? symbol.toJson = some symbol := by
  cases symbol with
  | mk declaration children =>
      have members := Json.defaulting_list (declaration.get?_children (toJsonAll children))
        (listOfJson?_toJsonAll children) fun none => by
          cases children with
          | nil => rfl
          | cons child rest => cases none
      rw [toJson, ofJson?_eq, Json.record?_obj, Option.bind_some, Declaration.ofRecord?_entries, Option.bind_some, members]
      rfl
theorem listOfJson?_toJsonAll (symbols : List Symbol) : listOfJson? (.arr (toJsonAll symbols)) = some symbols := by
  cases symbols with
  | nil => rfl
  | cons symbol rest =>
      have later := listOfJson?_toJsonAll rest
      rw [listOfJson?] at later ⊢
      rw [toJsonAll, List.mapM_cons, ofJson?_toJson symbol, later]
      rfl
end

mutual
theorem toJson_natural (symbol : Symbol) : symbol.toJson.Natural := by
  cases symbol with
  | mk declaration children =>
      have members := Declaration.listEntry_natural "children" (toJsonAll_natural children)
      exact .obj (List.forall_mem_append.mpr ⟨declaration.entries_natural, members⟩)
theorem toJsonAll_natural (symbols : List Symbol) : ∀ item ∈ toJsonAll symbols, item.Natural := by
  cases symbols with
  | nil => exact List.forall_mem_nil _
  | cons symbol rest => exact List.forall_mem_cons.mpr ⟨toJson_natural symbol, toJsonAll_natural rest⟩
end

end Symbol

namespace Document

theorem toJson_natural (document : Document) : document.toJson.Natural := by
  refine .obj (List.forall_mem_cons.mpr ⟨.str _, List.forall_mem_singleton.mpr ?_⟩)
  exact .arr (Symbol.toJsonAll_natural document.symbols)

theorem ofParts_toJson (document : Document) :
    ofParts (.str document.language.name) (.arr (Symbol.toJsonAll document.symbols)) = .ok document := by
  rw [ofParts, Language.ofJson?_name]
  simp only [Symbol.listOfJson?_toJsonAll]

theorem exported_reads_back (document : Document) :
    document.toJson.IsText document.exported ∧ Json.parse? document.exported = some document.toJson ∧
      ofExported? document.exported = some document := by
  have natural := document.toJson_natural
  have parsed : Json.parse? document.exported = some document.toJson := Json.parse?_print natural
  refine ⟨Json.isText_print natural, parsed, ?_⟩
  have language : document.toJson.get? "language" = some (.str document.language.name) := rfl
  have symbols : document.toJson.get? "symbols" = some (.arr (Symbol.toJsonAll document.symbols)) := rfl
  simp only [ofExported?, parsed, Option.bind_eq_bind, Option.bind_some, language, symbols, ofParts_toJson]
  rfl

end Document

end CodeOutline
