import FieldSearch.Proofs.Query.Equivalence
import FieldSearch.Proofs.Schema.Statements
import FieldSearch.Proofs.Store.Run
import Mathlib

/-!
# Keys and the ids that name them

A value comes to a key in two ways: with a record that is stored, and as the id of a record
that is looked up.  What a column takes and what an id stands for are settled apart from
each other.  Where keys are integers or texts the two agree: the value with which a record
was stored is an id itself, which stands for just that value, so that a lookup is refused
for nothing but its scope and finds the row.

An id is an integer or a text and no column of another type takes one.  A key of such a type
can be declared, stored and listed, and every lookup by it is refused.

## Main results

* `exists_id_of_takes`: what a key takes is an id that stands for it.
* `addresses_of_toValue?`: what comes of a lookup by an id that fits the key.
* `ids_address_keys`: which keys are found by their ids.
* `unaddressed_switches`: a record that is stored and listed, and found by no id.
-/

namespace FieldSearch

open Database (Cell Table)

namespace RecordId

theorem ofJson_text (value : String) : decoder.ofJson (.text value) = .ok (.text value) := rfl

theorem ofJson_integer {value : Int} (lower : -2 ^ 63 ≤ value) (upper : value < 2 ^ 63) :
    decoder.ofJson (.integer value) = .ok (.integer value) := by
  have hRead : Json.Decoder.int64.ofJson (.integer value) = .ok value := by
    refine if_pos ⟨?_, ?_⟩
    · rw [Number.minInt64]
      omega
    · rw [Number.maxInt64]
      omega
  have hFirst : (Json.Decoder.int64.map RecordId.integer).ofJson (.integer value) =
      .ok (.integer value) := by
    rw [Json.Decoder.ofJson_map, hRead]
    rfl
  unfold decoder Json.Decoder.either
  dsimp only
  rw [hFirst]
  rfl

/-- **What a key of integers or texts takes is an id that stands for it.** -/
theorem exists_id_of_takes {type : ColumnType} (hType : type = .integer ∨ type = .text)
    {json : Json} {value : Sql.Value} (h : type.Takes json value) :
    ∃ id : RecordId, decoder.ofJson json = .ok id ∧ id.toValue? type = some value := by
  cases h with
  | text value => exact ⟨.text value, ofJson_text value, rfl⟩
  | integer lower upper => exact ⟨.integer _, ofJson_integer lower upper, rfl⟩
  | whole | float | boolean => rcases hType with h | h <;> cases h

/-- No id stands for a value of another type. -/
theorem toValue?_eq_none {type : ColumnType} (hInteger : type ≠ .integer) (hText : type ≠ .text)
    (id : RecordId) : id.toValue? type = none := by
  cases type with
  | integer => exact absurd rfl hInteger
  | text => exact absurd rfl hText
  | float | boolean => cases id <;> rfl

end RecordId

namespace Schema

/-- What comes of an id that stands for the value of a key. -/
structure Addresses (schema : Schema) (id : RecordId) (value : Sql.Value) : Prop where
  /-- The id stands for the value. -/
  fits : id.toValue? schema.key.type = some value
  /-- A lookup asks for the rows with the value, and has no other parameter. -/
  prepared : ∀ resolver : Resolver, resolver.modifier = .keep →
    ∃ fragment, (resolver.prepareLookup schema id).outcome =
        .ok ⟨Resolver.selectOf schema value, fragment⟩ ∧
      fragment.params = [value]
  /-- Within a scope it is refused for the scope and for nothing else. -/
  refused_iff : ∀ resolver : Resolver, (∃ scope, resolver.modifier = .scope scope) →
    ∀ fault, (resolver.prepareLookup schema id).outcome = .error fault ↔
      resolver.Refuses schema { ids := some [id] } .scope fault
  /-- The row with the value is found. -/
  found : ∀ files table, FileStore.Serves files schema table → ∀ config resolver,
    (Resolver.create (.file files) config).outcome = .ok resolver →
      ∀ row ∈ table.rows, schema.keyCell row = Cell.ofValue value →
        (resolver.lookup (.file files) schema id).1.outcome = .ok (schema.recordOf row)

end Schema

namespace Resolver

variable {resolver : Resolver} {schema : Schema} {id : RecordId} {value : Sql.Value}

/-- A lookup by an id that fits the key is the finished selection of its value. -/
theorem prepareId_of_toValue? (h : id.toValue? schema.key.type = some value) :
    resolver.prepareId schema id = resolver.finish schema (selectOf schema value) := by
  have hSelect : lookupSelect schema id = .ok (selectOf schema value) :=
    bind_eq_ok.mpr ⟨_, idFilter_eq_ok.mpr ⟨[value], .cons h .nil, rfl⟩, rfl⟩
  rw [prepareId, hSelect]
  rfl

/-- A lookup by an id that does not fit the key is refused for that. -/
theorem prepareId_of_toValue?_eq_none (h : id.toValue? schema.key.type = none) :
    resolver.prepareId schema id = .error (.query (schema.mismatch schema.key)) := by
  have hRefused : withIds schema (.ofSchema schema) (some [id]) =
      .error (schema.mismatch schema.key) :=
    withIds_eq_error.mpr ⟨⟨[id], rfl, id, List.mem_singleton_self id, h⟩, rfl⟩
  rw [prepareId_eq, hRefused]
  rfl

/-- The only value in a statement that selects a key. -/
theorem params_selectOf {writer : Sql.Writer} (hEmpty : writer.params = [])
    {fragment : Sql.Fragment} (h : writer.renderSelect (selectOf schema value) = .ok fragment) :
    fragment.params = [value] := by
  obtain ⟨template, hTemplate, rfl⟩ := Sql.Writer.renderSelect_eq_ok h
  have hValues : template.values = [value] := Sql.values_renderSelect hTemplate
  show writer.params ++ template.values = [value]
  rw [hEmpty, hValues]
  rfl

theorem expressible_selectOf (dialect : Sql.Dialect) (schema : Schema) (value : Sql.Value) :
    (selectOf schema value).Expressible dialect := by
  have hFilter : (Filter.idIn schema.key.name [value]).Expressible dialect := trivial
  exact ((Select.expressible_ofSchema dialect schema).filter hFilter).page 1 0

theorem exists_prepareLookup_eq_ok (hKeep : resolver.modifier = .keep)
    (hValue : id.toValue? schema.key.type = some value) :
    ∃ fragment, (resolver.prepareLookup schema id).outcome =
        .ok ⟨selectOf schema value, fragment⟩ ∧ fragment.params = [value] := by
  have hModified : resolver.modifier.modify schema (selectOf schema value) =
      .ok (selectOf schema value) := by
    rw [hKeep]
    rfl
  obtain ⟨fragment, hFinished⟩ :=
    exists_finish_of_modify hModified (expressible_selectOf _ schema value)
  refine ⟨fragment, ?_, params_selectOf rfl (finish_eq_ok hFinished).2⟩
  rw [outcome_prepareLookup, prepareId_of_toValue? hValue, hFinished]

end Resolver

namespace Schema

/-- **What comes of a lookup by an id that fits the key.** -/
theorem addresses_of_toValue? {schema : Schema} (hValid : schema.Valid) {id : RecordId}
    {value : Sql.Value} (h : id.toValue? schema.key.type = some value) :
    schema.Addresses id value where
  fits := h
  prepared _ hKeep := Resolver.exists_prepareLookup_eq_ok hKeep h
  refused_iff resolver hScope fault := by
    rw [Resolver.outcome_prepareLookup, Resolver.prepareId_of_toValue? h]
    exact Resolver.finish_eq_error_iff (.inr hScope) hValid
      (Resolver.expressible_selectOf _ schema value)
  found files table hServes config resolver hMade row hRow hKey :=
    (Resolver.lookup_eq hValid hServes.made hServes.stored hServes.reachable hServes.found hMade
      h).1 row hRow hKey

/-- **Which keys are found by their ids.**  Where the key of a record type is an integer or a text,
whatever its column takes but null is an id as it stands, and that id asks for just the value that
is stored: it is refused for a scope at most, and finds the row.  Where the key is of another type
its column takes values as well, but no id stands for any, and all lookups are refused for that. -/
theorem ids_address_keys {declaration : Declaration} {schema : Schema}
    (hSchema : ofDeclaration declaration = .ok schema) :
    (schema.key.type = .integer ∨ schema.key.type = .text →
      ∀ json value, json ≠ .null → schema.columnValue schema.primaryKey json = .ok value →
        ∃ id, RecordId.decoder.ofJson json = .ok id ∧ schema.Addresses id value) ∧
    (schema.key.type ≠ .integer → schema.key.type ≠ .text →
      ∀ id : RecordId, id.toValue? schema.key.type = none ∧
        ∀ resolver : Resolver, (resolver.prepareLookup schema id).outcome =
          .error (.query (.typeMismatch schema.name schema.primaryKey schema.key.type.name))) := by
  have hValid := valid_of_ofDeclaration hSchema
  constructor
  · intro hType json value hNull hTaken
    have hTakes := (ColumnType.toValue?_eq_some_iff hNull).mp
      ((columnValue_eq_ok hValid hValid.key_mem).mp hTaken)
    obtain ⟨id, hRead, hValue⟩ := RecordId.exists_id_of_takes hType hTakes
    exact ⟨id, hRead, addresses_of_toValue? hValid hValue⟩
  · intro hInteger hText id
    have hNone := RecordId.toValue?_eq_none hInteger hText id
    refine ⟨hNone, fun resolver => ?_⟩
    rw [Resolver.outcome_prepareLookup, Resolver.prepareId_of_toValue?_eq_none hNone]
    rfl

/-- Switches, which are told apart by whether they are on. -/
def switches : Schema where
  name := "Switch"
  table := "switches"
  columns := [⟨"on", .boolean⟩]
  key := ⟨"on", .boolean⟩
  options := { allowUnfilteredFetch := true }
  searchable := .empty "Switch"

theorem ofDeclaration_switches : ofDeclaration switches.toDeclaration = .ok switches := by rfl

/-- The least integer is a key that can be looked up, and switches cannot be. -/
theorem ids_address_keys_of_vaults :
    (∃ id, RecordId.decoder.ofJson (.integer (-2 ^ 63)) = .ok id ∧
      vaults.Addresses id (.integer (-2 ^ 63))) ∧
    ∀ resolver : Resolver, (resolver.prepareLookup switches (.text "true")).outcome =
      .error (.query (.typeMismatch "Switch" "on" "boolean")) :=
  ⟨(ids_address_keys ofDeclaration_vaults).1 (.inl rfl) _ _ nofun rfl,
    ((ids_address_keys ofDeclaration_switches).2 nofun nofun (.text "true")).2⟩

/-- A switch that is on is stored and listed, and no id stands for it. -/
theorem unaddressed_switches :
    let switch : Record := ⟨.ofList [("on", .bool true)]⟩
    let (created, start) :=
      (Store.file (.ofPath Location.memoryPath {})).ensureTable switches
    let (inserted, last) := start.insert switches switch
    ofDeclaration switches.toDeclaration = .ok switches ∧
    switches.columnValue "on" (.bool true) = .ok (.bool true) ∧
    created = .ok () ∧ inserted = .ok () ∧
    ((Resolver.forFile {} none).list last switches {}).1.outcome.toOption.map List.length =
      some 1 ∧
    ∀ id : RecordId, id.toValue? switches.key.type = none ∧
      ((Resolver.forFile {} none).lookup last switches id).1.outcome =
        .error (.query (.typeMismatch "Switch" "on" "boolean")) := by
  refine ⟨rfl, rfl, rfl, rfl, ?_, fun id => ?_⟩
  · decide +kernel
  · cases id <;> exact ⟨rfl, rfl⟩

end Schema
end FieldSearch
