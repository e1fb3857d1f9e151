import FieldSearch.Proofs.Json.Decoding
import FieldSearch.Proofs.Schema.Validation
import FieldSearch.Schema.Codec
import Mathlib

/-!
# Record types that are written and read again

A record type is written as the declaration that it amounts to, with everything spelled out
that may have been left to its default, and it is read as a declaration, which is checked.
What is read therefore is what can be declared; and since a declaration that is spelled out
passes the same checks and leads to the same record type, nothing is lost on the way.

In which order the fields of an object are written is left open: `WrittenAs` holds of any.

## Main results

* `ofDeclaration_toDeclaration`: a declaration that is spelled out is accepted again.
* `reads_of_writtenAs`: a record type is read from whatever it is written as.
* `reads_back_written`: record types that are written and read again.
-/

namespace FieldSearch

open Json (Decoder)
open Json.Decoder (Reads Row reads_text reads_bool reads_choice reads_none)

/-- The value is an object with these entries in some order. -/
def Json.ObjectOf (entries : List (String × Json)) (json : Json) : Prop :=
  ∃ shuffled : List (String × Json), shuffled.Perm entries ∧ json = .object shuffled

/-- What is read from a document, written again. -/
def Json.recode {α δ : Type} (read : δ → Except Fault α) (write : α → δ) (document : δ) :
    Except Fault δ :=
  write <$> read document

/-- Where what was written is read as the same again, writing and reading once more changes
nothing. -/
theorem Json.recode_bind_recode {α δ : Type} {read : δ → Except Fault α} {write : α → δ}
    (h : ∀ {document value}, read document = .ok value → read (write value) = .ok value)
    (document : δ) :
    recode read write document >>= recode read write = recode read write document := by
  cases hRead : read document with
  | error fault =>
      rw [recode, hRead]
      rfl
  | ok value =>
      have hOnce : recode read write document = .ok (write value) := by
        rw [recode, hRead]
        rfl
      have hTwice : recode read write (write value) = .ok (write value) := by
        rw [recode, h hRead]
        rfl
      rw [hOnce]
      exact hTwice

/-! ## Columns -/

namespace Column

/-- The column is written as the value. -/
def WrittenAs (column : Column) (json : Json) : Prop :=
  json.ObjectOf [("name", .text column.name), ("type", column.type.toJson)]

theorem writtenAs_toJson (column : Column) : column.WrittenAs column.toJson := ⟨_, .refl _, rfl⟩

/-- The fields of a column as they are read. -/
def rows (column : Column) : List (Row Column) :=
  [⟨"name", .text column.name, fun other => { other with name := column.name }⟩,
    ⟨"type", column.type.toJson, fun other => { other with type := column.type }⟩]

theorem reads_of_writtenAs {column : Column} {json : Json} (h : column.WrittenAs json)
    (depth : Nat) : decoder.Reads (depth + 1) json column := by
  obtain ⟨entries, hEntries, rfl⟩ := h
  have hType : ColumnType.decoder.Reads depth column.type.toJson column.type := by
    refine reads_choice ?_ depth
    cases column.type <;> rfl
  refine .struct_of_perm column.rows rfl ⟨?reads, ?nodup, ?required⟩ ?commute hEntries
  case reads =>
    simp only [rows, List.forall_mem_cons]
    exact ⟨⟨_, rfl, (reads_text depth column.name).map _⟩, ⟨_, rfl, hType.map _⟩, nofun⟩
  case nodup =>
    show ["name", "type"].Nodup
    decide
  case required => simp [Decoder.Field.required, rows]
  case commute =>
    intro left hLeft right hRight state
    fin_cases hLeft <;> fin_cases hRight <;> rfl

end Column

/-! ## Search options -/

namespace SearchOptions

/-- The options are written as the value. -/
def WrittenAs (options : SearchOptions) (json : Json) : Prop :=
  json.ObjectOf [("searchable_fields", .list (options.searchableFields.map .text)),
    ("allow_unfiltered_fetch", .bool options.allowUnfilteredFetch)]

theorem writtenAs_toJson (options : SearchOptions) : options.WrittenAs options.toJson :=
  ⟨_, .swap _ _ _, rfl⟩

/-- The fields of search options as they are read. -/
def rows (options : SearchOptions) : List (Row SearchOptions) :=
  [⟨"searchable_fields", .list (options.searchableFields.map .text),
      fun other => { other with searchableFields := options.searchableFields }⟩,
    ⟨"allow_unfiltered_fetch", .bool options.allowUnfilteredFetch,
      fun other => { other with allowUnfilteredFetch := options.allowUnfilteredFetch }⟩]

theorem reads_of_writtenAs {options : SearchOptions} {json : Json} (h : options.WrittenAs json)
    (depth : Nat) : decoder.Reads (depth + 2) json options := by
  obtain ⟨entries, hEntries, rfl⟩ := h
  have hFields : Decoder.text.list.Reads (depth + 1)
      (.list (options.searchableFields.map .text)) options.searchableFields := by
    refine .list (List.forall₂_map_left_iff.mpr (List.forall₂_same.mpr fun field _ => ?_))
    exact reads_text depth field
  refine .struct_of_perm options.rows rfl ⟨?reads, ?nodup, ?required⟩ ?commute hEntries
  case reads =>
    simp only [rows, List.forall_mem_cons]
    exact ⟨⟨_, rfl, hFields.map _⟩, ⟨_, rfl, (reads_bool _ options.allowUnfilteredFetch).map _⟩,
      nofun⟩
  case nodup =>
    show ["searchable_fields", "allow_unfiltered_fetch"].Nodup
    decide
  case required => simp [Decoder.Field.defaulted]
  case commute =>
    intro left hLeft right hRight state
    fin_cases hLeft <;> fin_cases hRight <;> rfl

end SearchOptions

/-! ## Declarations -/

namespace Declaration

/-- The declaration is written as the value, and so are its columns and its search options. -/
def WrittenAs (declaration : Declaration) (json : Json) : Prop :=
  ∃ columns search, List.Forall₂ Column.WrittenAs declaration.columns columns ∧
    declaration.search.WrittenAs search ∧
    json.ObjectOf [("name", .text declaration.name), ("table", .ofText? declaration.table),
      ("primary_key", .text declaration.primaryKey), ("columns", .list columns),
      ("search", search)]

theorem writtenAs_toJson (declaration : Declaration) :
    declaration.WrittenAs declaration.toJson := by
  refine ⟨_, _, List.forall₂_map_right_iff.mpr (List.forall₂_same.mpr fun column _ =>
    column.writtenAs_toJson), declaration.search.writtenAs_toJson, _, ?_, rfl⟩
  -- The columns stand in front of the name and the table behind the search options.
  exact .trans (.swap _ _ _) (.cons _
    (.trans (List.perm_append_singleton _ [_, _, _]) (.cons _ (.swap _ _ _))))

/-- The fields of a declaration as they are read. -/
def rows (declaration : Declaration) (columns : List Json) (search : Json) :
    List (Row Declaration) :=
  [⟨"name", .text declaration.name, fun other => { other with name := declaration.name }⟩,
    ⟨"table", .ofText? declaration.table, fun other => { other with table := declaration.table }⟩,
    ⟨"primary_key", .text declaration.primaryKey,
      fun other => { other with primaryKey := declaration.primaryKey }⟩,
    ⟨"columns", .list columns, fun other => { other with columns := declaration.columns }⟩,
    ⟨"search", search, fun other => { other with search := declaration.search }⟩]

theorem reads_of_writtenAs {declaration : Declaration} {json : Json}
    (h : declaration.WrittenAs json) (depth : Nat) :
    decoder.Reads (depth + 3) json declaration := by
  obtain ⟨columns, search, hColumns, hSearch, entries, hEntries, rfl⟩ := h
  have hTable : Decoder.text.optional.Reads (depth + 2) (.ofText? declaration.table)
      declaration.table := by
    cases declaration.table with
    | none => exact reads_none _ _
    | some table => exact (reads_text _ table).some nofun
  have hEach : Column.decoder.list.Reads (depth + 2) (.list columns) declaration.columns :=
    .list (hColumns.flip.imp fun _ _ hColumn => Column.reads_of_writtenAs hColumn depth)
  refine .struct_of_perm (declaration.rows columns search) rfl ⟨?reads, ?nodup, ?required⟩ ?commute
    hEntries
  case reads =>
    simp only [rows, List.forall_mem_cons]
    exact ⟨⟨_, rfl, (reads_text _ declaration.name).map _⟩, ⟨_, rfl, hTable.map _⟩,
      ⟨_, rfl, (reads_text _ declaration.primaryKey).map _⟩, ⟨_, rfl, hEach.map _⟩,
      ⟨_, rfl, (SearchOptions.reads_of_writtenAs hSearch depth).map _⟩, nofun⟩
  case nodup =>
    show ["name", "table", "primary_key", "columns", "search"].Nodup
    decide
  case required => simp [Decoder.Field.required, Decoder.Field.defaulted, rows]
  case commute =>
    intro left hLeft right hRight state
    fin_cases hLeft <;> fin_cases hRight <;> rfl

end Declaration

/-! ## Record types -/

namespace Schema

variable {schema : Schema}

/-- The record type is written as the value. -/
def WrittenAs (schema : Schema) (json : Json) : Prop := schema.toDeclaration.WrittenAs json

/-- The record type came about: it was declared, or read from a value or from a text. -/
inductive Arises (schema : Schema) : Prop where
  | declared {declaration : Declaration} (accepted : ofDeclaration declaration = .ok schema)
  | decoded {document : Json} (read : decoder.ofJson document = .ok schema)
  | parsed {text : String} (read : decoder.parse text = .ok schema)

/-- What is read passes the check that declarations have to pass. -/
theorem Arises.exists_declaration (h : schema.Arises) :
    ∃ declaration, ofDeclaration declaration = .ok schema := by
  cases h with
  | declared accepted => exact ⟨_, accepted⟩
  | decoded read =>
      obtain ⟨declaration, -, hAccepted⟩ := Decoder.exists_of_ofJson_verify read
      exact ⟨declaration, mapError_eq_ok.mp hAccepted⟩
  | parsed read =>
      obtain ⟨declaration, hAccepted⟩ := Decoder.exists_of_parse_verify read
      exact ⟨declaration, mapError_eq_ok.mp hAccepted⟩

/-- **A declaration that is spelled out is accepted again**, as the same record type. -/
theorem ofDeclaration_toDeclaration {declaration : Declaration}
    (h : ofDeclaration declaration = .ok schema) :
    ofDeclaration schema.toDeclaration = .ok schema := by
  have hWell := wellFormed_of_ofDeclaration h
  obtain ⟨-, key, hKey, rfl⟩ := ofDeclaration_eq_ok h
  have hName : key.name = declaration.primaryKey := by simpa using List.find?_some hKey
  have hSpelled : Declaration.WellFormed ⟨declaration.name, some (tableName declaration), key.name,
      declaration.columns, declaration.search⟩ :=
    { hWell with
      table := hWell.table
      primaryKey := ⟨key, List.mem_of_find?_eq_some hKey, rfl⟩ }
  obtain ⟨schema, hSchema⟩ := (refusedBy_ofDeclaration _).exists_ok_iff.mpr hSpelled.passes
  obtain ⟨-, found, hFound, rfl⟩ := ofDeclaration_eq_ok hSchema
  have hSame : some found = some key := by
    rw [← hFound, ← hKey, ← hName]
  obtain rfl := Option.some.inj hSame
  exact hSchema

/-- A record type is read from whatever it is written as. -/
theorem reads_of_writtenAs (hDeclared : ofDeclaration schema.toDeclaration = .ok schema)
    {json : Json} (h : schema.WrittenAs json) (depth : Nat) :
    decoder.Reads (depth + 3) json schema :=
  (Declaration.reads_of_writtenAs h depth).verify (mapError_eq_ok.mpr hDeclared)

theorem writtenAs_toJson (schema : Schema) : schema.WrittenAs schema.toJson :=
  schema.toDeclaration.writtenAs_toJson

/-! ## Writing and reading again -/

/-- What is known of a record type that came about, in whatever way it did. -/
structure Returns (schema : Schema) : Prop where
  valid : schema.Valid
  wellFormed : schema.toDeclaration.WellFormed
  /-- It is what its own declaration is accepted as. -/
  declared : ofDeclaration schema.toDeclaration = .ok schema
  /-- It is read from all values that it is written as. -/
  decoded : ∀ json, schema.WrittenAs json → decoder.ofJson json = .ok schema
  /-- It is read from their texts. -/
  parsed : ∀ json, schema.WrittenAs json → decoder.parse json.print = .ok schema

theorem Arises.returns (h : schema.Arises) : schema.Returns := by
  obtain ⟨declaration, hDeclaration⟩ := h.exists_declaration
  have hDeclared := ofDeclaration_toDeclaration hDeclaration
  exact {
    valid := valid_of_ofDeclaration hDeclared
    wellFormed := wellFormed_of_ofDeclaration hDeclared
    declared := hDeclared
    decoded := fun json hWritten => (reads_of_writtenAs hDeclared hWritten 0).ofJson
    parsed := fun json hWritten => (reads_of_writtenAs hDeclared hWritten 124).parse_print }

/-- **Record types that are written and read again.**  Whether a record type was declared or read,
it has passed all checks, and from whatever it is written as, it is read as the same record type,
with the same table, key, columns, search options and searchable fields.  So a document that has
once been read and written stays as it is, however much of it was left out in the first place. -/
theorem reads_back_written :
    (∀ schema : Schema, schema.Arises → schema.Returns) ∧
    (∀ schema : Schema, schema.WrittenAs schema.toJson) ∧
    ∀ write : Schema → Json, (∀ schema : Schema, schema.WrittenAs (write schema)) →
      (∀ document, Json.recode decoder.ofJson write document >>= Json.recode decoder.ofJson write =
        Json.recode decoder.ofJson write document) ∧
      ∀ document, Json.recode decoder.parse (Json.print ∘ write) document >>=
          Json.recode decoder.parse (Json.print ∘ write) =
        Json.recode decoder.parse (Json.print ∘ write) document :=
  ⟨fun _ => Arises.returns, writtenAs_toJson, fun _ hWrite =>
    ⟨Json.recode_bind_recode fun hRead => (Arises.decoded hRead).returns.decoded _ (hWrite _),
      Json.recode_bind_recode fun hRead => (Arises.parsed hRead).returns.parsed _ (hWrite _)⟩⟩

/-- Villains, of whom no more is said than that they have a text for an id: they get a table and a
key, cannot be searched, and are read again from what is then written. -/
theorem reads_back_written_of_villains :
    let document : Json := .object [("columns", .list [.object [("type", .text "text"),
      ("name", .text "id")]]), ("name", .text "Villain")]
    let villains : Schema :=
      ⟨"Villain", "villain", [⟨"id", .text⟩], ⟨"id", .text⟩, {}, .empty "Villain"⟩
    decoder.parse document.print = .ok villains ∧ villains.Returns ∧
      decoder.parse villains.toJson.print = .ok villains ∧
      Json.recode decoder.ofJson toJson document = .ok villains.toJson ∧
      Json.recode decoder.ofJson toJson villains.toJson = .ok villains.toJson := by
  intro document villains
  obtain ⟨hReturns, hWritten, hRecoded⟩ := reads_back_written
  have hRead : decoder.parse document.print = .ok villains := by decide +kernel
  have hOnce : Json.recode decoder.ofJson toJson document = .ok villains.toJson := by rfl
  have hBack := hReturns villains (.parsed hRead)
  have hTwice := (hRecoded toJson hWritten).1 document
  rw [hOnce] at hTwice
  exact ⟨hRead, hBack, hBack.parsed _ (hWritten villains), hOnce, hTwice⟩

end Schema
end FieldSearch
