import FieldSearch.Cli.Options
import FieldSearch.Proofs.Query.Codec
import FieldSearch.Proofs.Schema.Declaration
import Mathlib

/-!
# Ids as numbers and as texts

A command line gives every id as a text, while JSON has numbers besides.  An integer key
takes a text for the integer that it spells, and a text key takes an integer as it is written
out, so a number and its text stand for the same value whatever the key is.  All that a request
does with an id is to ask for that value and, where nothing was found, to show the id, which shows
both in the same way.  So requests do not tell ids apart that are shown alike.

## Main results

* `RecordId.toValue?_text_integer_eq_some_iff`: the texts that an integer key takes.
* `RecordId.toValue?_congr`: ids that are shown alike stand for the same value.
* `prepareLookup_congr`, `prepareList_congr`: requests ask for the values of ids only.
* `ids_are_interchangeable`: all of it, and what follows for command lines.
-/

namespace FieldSearch

open Number (fitsInt64 fitsInt64_iff)

namespace RecordId

/-- **An integer key takes a text that spells an integer of 64 bits**, for that integer. -/
theorem toValue?_text_integer_eq_some_iff {content : String} {value : Sql.Value} :
    (text content).toValue? .integer = some value ↔
      ∃ n, Number.Spells content.toList n ∧ fitsInt64 n = true ∧ value = .integer n := by
  change (Number.readInt64? content).map Sql.Value.integer = some value ↔ _
  rw [Option.map_eq_some_iff]
  refine exists_congr fun n => ?_
  rw [Number.readInt64?_eq_some_iff, and_assoc, @eq_comm _ value]

/-- An id stands for the same value as the text that shows it. -/
theorem toValue?_text_display {id : RecordId} (h : id.InRange) (type : ColumnType) :
    (text id.display).toValue? type = id.toValue? type := by
  cases id with
  | text content => rfl
  | integer n =>
      cases type with
      | integer =>
          change (Number.readInt64? (toString n)).map Sql.Value.integer = _
          rw [Number.readInt64?_toString h]
          rfl
      | _ => rfl

/-- **Ids that are shown alike stand for the same value.** -/
theorem toValue?_congr {left right : RecordId} (hLeft : left.InRange) (hRight : right.InRange)
    (h : left.display = right.display) (type : ColumnType) :
    left.toValue? type = right.toValue? type := by
  rw [← toValue?_text_display hLeft, ← toValue?_text_display hRight, h]

theorem map_toValue?_congr {left right : List RecordId} (hLeft : ∀ id ∈ left, id.InRange)
    (hRight : ∀ id ∈ right, id.InRange) (h : left.map display = right.map display)
    (type : ColumnType) : left.map (·.toValue? type) = right.map (·.toValue? type) := by
  have hTexts {ids : List RecordId} (hIds : ∀ id ∈ ids, id.InRange) :
      ids.map (·.toValue? type) = (ids.map display).map fun shown =>
        (text shown).toValue? type := by
    rw [List.map_map]
    exact List.map_congr_left fun id hId => (toValue?_text_display (hIds id hId) type).symm
  rw [hTexts hLeft, hTexts hRight, h]

end RecordId

namespace Resolver

variable {resolver : Resolver} {schema : Schema}

/-- A filter asks for the values of ids only. -/
theorem idFilter_congr {left right : List RecordId}
    (h : left.map (·.toValue? schema.key.type) = right.map (·.toValue? schema.key.type)) :
    idFilter schema left = idFilter schema right := by
  have hValues (ids : List RecordId) : idFilter schema ids =
      (ids.map (·.toValue? schema.key.type)).mapM (fun value? =>
        value?.elim (throw (schema.mismatch schema.key)) pure) >>= fun values =>
          pure (.idIn schema.key.name values) := by
    rw [List.mapM_map, idFilter]
    refine congrArg (fun step => ids.mapM step >>= _) (funext fun id => ?_)
    cases hValue : id.toValue? schema.key.type with
    | none => simp [hValue]
    | some value => simp [hValue]
  rw [hValues, hValues, h]

theorem prepareLookup_congr {left right : RecordId}
    (h : left.toValue? schema.key.type = right.toValue? schema.key.type) :
    resolver.prepareLookup schema left = resolver.prepareLookup schema right := by
  have hFilter : idFilter schema [left] = idFilter schema [right] :=
    idFilter_congr (congrArg (fun value? => [value?]) h)
  simp only [prepareLookup, prepareId, lookupSelect, hFilter]

theorem prepareList_congr {left right : List RecordId}
    (h : left.map (·.toValue? schema.key.type) = right.map (·.toValue? schema.key.type))
    (request : ListRequest) :
    resolver.prepareList schema { request with ids := some left } =
      resolver.prepareList schema { request with ids := some right } := by
  simp only [prepareList, withIds, idFilter_congr h]
  rfl

/-- Looking a record up comes to the same for ids that are shown alike. -/
theorem lookup_congr {left right : RecordId} (hLeft : left.InRange) (hRight : right.InRange)
    (h : left.display = right.display) (store : Store) :
    resolver.lookup store schema left = resolver.lookup store schema right := by
  have hPrepared : resolver.prepareLookup schema left = resolver.prepareLookup schema right :=
    prepareLookup_congr (RecordId.toValue?_congr hLeft hRight h schema.key.type)
  rw [lookup, lookup, hPrepared, h]

/-- **Ids from command lines and from JSON are interchangeable.**  An integer of 64 bits and its
text stand for the same value under every type of key.  Ids that are shown alike, one by one, lead
to the same statement or the same fault, and so do those of a command line that shows them.  A text
is accepted for an integer key if it is digits, at least one, with or without a sign in front, and
the integer that it spells fits 64 bits; then it stands for this integer. -/
theorem ids_are_interchangeable :
    (∀ n : Int, -2 ^ 63 ≤ n → n < 2 ^ 63 → ∀ type : ColumnType,
      (RecordId.integer n).toValue? type = (RecordId.text (toString n)).toValue? type) ∧
    (∀ (resolver : Resolver) (schema : Schema),
      (∀ left right : RecordId, left.InRange → right.InRange → left.display = right.display →
        resolver.prepareLookup schema left = resolver.prepareLookup schema right ∧
        ∀ store, resolver.lookup store schema left = resolver.lookup store schema right) ∧
      (∀ (request : ListRequest) (left right : List RecordId), (∀ id ∈ left, id.InRange) →
        (∀ id ∈ right, id.InRange) → left.map RecordId.display = right.map RecordId.display →
          resolver.prepareList schema { request with ids := some left } =
            resolver.prepareList schema { request with ids := some right }) ∧
      ∀ (options : Cli.Options) (ids : List RecordId), (∀ id ∈ ids, id.InRange) → ids ≠ [] →
        options.ids = ids.map RecordId.display →
          resolver.prepareList schema options.listRequest =
            resolver.prepareList schema { options.listRequest with ids := some ids }) ∧
    ∀ (content : String) (value : Sql.Value),
      (RecordId.text content).toValue? .integer = some value ↔
        ∃ n : Int, Number.Spells content.toList n ∧ -2 ^ 63 ≤ n ∧ n < 2 ^ 63 ∧
          value = .integer n := by
  refine ⟨fun n hLow hHigh type => ?_, fun resolver schema => ⟨?_, ?_, ?_⟩, fun content value => ?_⟩
  · have hRange : (RecordId.integer n).InRange := fitsInt64_iff.mpr ⟨hLow, hHigh⟩
    exact (RecordId.toValue?_text_display hRange type).symm
  · intro left right hLeft hRight hShown
    exact ⟨prepareLookup_congr (RecordId.toValue?_congr hLeft hRight hShown schema.key.type),
      lookup_congr hLeft hRight hShown⟩
  · intro request left right hLeft hRight hShown
    exact prepareList_congr (RecordId.map_toValue?_congr hLeft hRight hShown _) request
  · intro options ids hRange hSome hIds
    have hGiven : options.listRequest =
        { options.listRequest with ids := some (options.ids.map RecordId.text) } := by
      have hNotEmpty : options.ids.isEmpty = false := by simpa [hIds] using hSome
      rw [Cli.Options.listRequest, hNotEmpty]
      rfl
    rw [hGiven]
    refine prepareList_congr (RecordId.map_toValue?_congr ?_ hRange ?_ _) options.listRequest
    · intro id hMem
      obtain ⟨content, -, rfl⟩ := List.mem_map.mp hMem
      trivial
    · rw [List.map_map, hIds]
      exact List.map_id' _
  · simp only [RecordId.toValue?_text_integer_eq_some_iff, fitsInt64_iff, and_assoc]

/-- Both ends of the range; a number among texts, as JSON and as a command line give it; and a text
with a sign and zeros in front. -/
theorem ids_are_interchangeable_of_heroes :
    let resolver : Resolver := ⟨{}, ⟨.generic, .sqlite, none⟩, .keep⟩
    let options : Cli.Options := { ids := ["-5", "x"], terms := [("name", "man")] }
    let least : RecordId := .integer (-2 ^ 63)
    least.toValue? .integer = (RecordId.text "-9223372036854775808").toValue? .integer ∧
    least.toValue? .text = (RecordId.text "-9223372036854775808").toValue? .text ∧
    resolver.prepareLookup .heroes (.integer (2 ^ 63 - 1)) =
      resolver.prepareLookup .heroes (.text "9223372036854775807") ∧
    resolver.prepareList .heroes { ids := some [.integer 7, .text "x"] } =
      resolver.prepareList .heroes { ids := some [.text "7", .text "x"] } ∧
    resolver.prepareList .heroes options.listRequest =
      resolver.prepareList .heroes
        { options.listRequest with ids := some [.integer (-5), .text "x"] } ∧
    (RecordId.text "+007").toValue? .integer = some (.integer 7) ∧
    (RecordId.text "9223372036854775808").toValue? .integer = none := by
  intro resolver options least
  obtain ⟨hSame, hRequests, hTexts⟩ := ids_are_interchangeable
  obtain ⟨hLookups, hLists, hOptions⟩ := hRequests resolver .heroes
  refine ⟨hSame _ (by decide) (by decide) _, hSame _ (by decide) (by decide) _,
    (hLookups _ _ (by decide) (by decide) rfl).1,
    hLists {} _ _ (by decide) (by decide) rfl,
    hOptions options [.integer (-5), .text "x"] (by decide) nofun rfl, ?_, rfl⟩
  have hSpelled : Number.Spelled ['0', '0', '7'] 7 :=
    ⟨nofun, List.all_eq_true.mp rfl, rfl⟩
  exact (hTexts _ _).mpr ⟨7, .plus hSpelled, by decide, by decide, rfl⟩

end Resolver
end FieldSearch
