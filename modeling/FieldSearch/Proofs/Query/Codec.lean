import FieldSearch.Proofs.Json.Integer
import FieldSearch.Proofs.KeyMap
import FieldSearch.Query.Resolver
import Mathlib

/-!
# List requests that are written and read again

A list request that is written as JSON is read as the same request.  Everything in it may
be absent, and much of it may be empty instead; an id is a number or a text, and which of them is
found out by trying one after the other.  Each of these is written in its own way, so nothing is
taken for anything else: two requests with the same text are the same.

## Main results

* `RecordId.reads_toJson`, `TermSet.reads_toJson`, `ListRequest.reads_toJson`: what is written is
  read.
* `written_requests_are_read_again`: requests, and the statements that are made of them.
-/

namespace FieldSearch

open Json (Decoder)
open Json.Decoder (Row reads_text reads_none reads_int64 reads_value_integer reads_value_text)
open Number (fitsInt64)

/-! ## Ids -/

namespace RecordId

/-- An integer id fits 64 bits. -/
def InRange : RecordId → Prop
  | .integer value => fitsInt64 value = true
  | .text _ => True

instance (id : RecordId) : Decidable id.InRange := by
  cases id
  · exact inferInstanceAs (Decidable (_ = true))
  · exact inferInstanceAs (Decidable True)

theorem reads_toJson {id : RecordId} (h : id.InRange) (depth : Nat) :
    decoder.Reads depth id.toJson id := by
  cases id with
  | integer value =>
      have hInteger := (reads_int64 h depth).map RecordId.integer
      exact .either (Decoder.ofJson_either_of_eq_ok hInteger.ofJson) (reads_value_integer h depth)
  | text value => exact .either rfl (reads_value_text depth value)

end RecordId

/-! ## Terms -/

/-- A map of terms is read from its entries, absent and empty terms being kept apart. -/
theorem TermSet.reads_toJson (terms : TermSet) (depth : Nat) :
    decoder.Reads (depth + 1) terms.toJson terms := by
  have hTerm : ∀ term, Decoder.text.optional.Reads depth (Json.ofText? term) term := by
    intro term
    cases term with
    | none => exact reads_none _ _
    | some term => exact (reads_text depth term).some nofun
  have hMap := Decoder.Reads.keyMap fun entry (_ : entry ∈ terms.terms.entries) => hTerm entry.2
  rw [KeyMap.ofList_entries] at hMap
  exact hMap.map TermSet.mk

/-! ## Requests -/

namespace ListRequest

/-- The numbers in a request fit 64 bits. -/
structure InRange (request : ListRequest) : Prop where
  ids : ∀ ids ∈ request.ids, ∀ id ∈ ids, id.InRange
  limit : ∀ limit ∈ request.limit, fitsInt64 limit = true
  offset : ∀ offset ∈ request.offset, fitsInt64 offset = true

/-- The fields of a request as they are read. -/
def rows (request : ListRequest) : List (Row ListRequest) :=
  [⟨"ids", match request.ids with
      | some ids => .list (ids.map RecordId.toJson)
      | none => .null, fun other => { other with ids := request.ids }⟩,
    ⟨"limit", optionalInteger request.limit, fun other => { other with limit := request.limit }⟩,
    ⟨"offset", optionalInteger request.offset,
      fun other => { other with offset := request.offset }⟩,
    ⟨"query", match request.terms with
      | some terms => terms.toJson
      | none => .null, fun other => { other with terms := request.terms }⟩]

theorem reads_optionalInteger {value : Option Int} (h : ∀ n ∈ value, fitsInt64 n = true)
    (depth : Nat) : Decoder.int64.optional.Reads depth (optionalInteger value) value := by
  cases value with
  | none => exact reads_none _ _
  | some n => exact (reads_int64 (h n rfl) depth).some nofun

/-- **A request is read from what it is written as**, inside two more brackets. -/
theorem reads_toJson {request : ListRequest} (h : request.InRange) (depth : Nat) :
    decoder.Reads (depth + 2) request.toJson request := by
  have hIds : RecordId.decoder.list.optional.Reads (depth + 1) (match request.ids with
      | some ids => .list (ids.map RecordId.toJson)
      | none => .null) request.ids := by
    cases hGiven : request.ids with
    | none => exact reads_none _ _
    | some ids =>
        have hEach : List.Forall₂ (RecordId.decoder.Reads depth) (ids.map RecordId.toJson) ids :=
          List.forall₂_map_left_iff.mpr (List.forall₂_same.mpr fun id hId =>
            RecordId.reads_toJson (h.ids ids hGiven id hId) depth)
        exact (Decoder.Reads.list hEach).some nofun
  have hTerms : TermSet.decoder.optional.Reads (depth + 1) (match request.terms with
      | some terms => terms.toJson
      | none => .null) request.terms := by
    cases request.terms with
    | none => exact reads_none _ _
    | some terms => exact (terms.reads_toJson depth).some nofun
  refine @Decoder.Reads.struct ListRequest _ (depth + 1) request.rows "struct ListQuery" {}
    ⟨?reads, ?nodup, ?required⟩
  case reads =>
    simp only [rows, List.forall_mem_cons]
    exact ⟨⟨_, rfl, hIds.map _⟩, ⟨_, rfl, (reads_optionalInteger h.limit _).map _⟩,
      ⟨_, rfl, (reads_optionalInteger h.offset _).map _⟩, ⟨_, rfl, hTerms.map _⟩, nofun⟩
  case nodup =>
    show ["ids", "limit", "offset", "query"].Nodup
    decide
  case required => simp [Decoder.Field.defaulted]

/-- Requests that are written as the same text are the same. -/
theorem print_toJson_injective {left right : ListRequest} (hLeft : left.InRange)
    (hRight : right.InRange) (h : left.toJson.print = right.toJson.print) : left = right := by
  have hRead : Except.ok left = Except.ok right :=
    calc Except.ok left = decoder.parse left.toJson.print :=
          (reads_toJson hLeft 125).parse_print.symm
      _ = decoder.parse right.toJson.print := by rw [h]
      _ = Except.ok right := (reads_toJson hRight 125).parse_print
  exact Except.ok.inj hRead

/-- **Requests that are written are read again**, from the value and from its text, so two requests
with one text are the same, whatever is absent or empty in them and whatever their ids are.  What is
read again leads to the same statement or the same fault for every resolver and record type. -/
theorem written_requests_are_read_again :
    (∀ request : ListRequest, request.InRange →
      decoder.ofJson request.toJson = .ok request ∧
        decoder.parse request.toJson.print = .ok request) ∧
    (∀ left right : ListRequest, left.InRange → right.InRange →
      (left.toJson.print = right.toJson.print ↔ left = right)) ∧
    ∀ request decoded : ListRequest, request.InRange →
      decoder.parse request.toJson.print = .ok decoded →
        ∀ (resolver : Resolver) (schema : Schema),
          resolver.prepareList schema decoded = resolver.prepareList schema request := by
  have hParse : ∀ request : ListRequest, request.InRange →
      decoder.parse request.toJson.print = .ok request :=
    fun request hRange => (reads_toJson hRange 125).parse_print
  refine ⟨fun request hRange => ⟨(reads_toJson hRange 125).ofJson, hParse request hRange⟩,
    fun left right hLeft hRight => ⟨print_toJson_injective hLeft hRight, ?_⟩, ?_⟩
  · rintro rfl
    rfl
  · intro request decoded hRange hDecoded resolver schema
    obtain rfl : request = decoded := Except.ok.inj ((hParse request hRange).symm.trans hDecoded)
    rfl

/-- Numbers at both ends of the range, and pairs of requests that are easily taken for each other:
without ids and with none, for a number and for its text, without terms and with none, and with an
absent and with an empty term. -/
theorem written_requests_are_read_again_of_lookalikes :
    let terms : TermSet := .ofList [("name", some "man"), ("team", some ""), ("hometown", none)]
    let request : ListRequest :=
      { ids := some [.integer 5, .text "5", .integer Number.minInt64],
        limit := some Number.maxInt64, terms := some terms }
    let withIds (ids : Option (List RecordId)) : ListRequest := { request with ids }
    let withTerms (terms : Option TermSet) : ListRequest := { request with terms }
    decoder.parse request.toJson.print = .ok request ∧
    (withIds none).toJson.print ≠ (withIds (some [])).toJson.print ∧
    (withIds (some [.integer 5])).toJson.print ≠ (withIds (some [.text "5"])).toJson.print ∧
    (withTerms none).toJson.print ≠ (withTerms (some .empty)).toJson.print ∧
    (withTerms (some (.ofList [("name", none)]))).toJson.print ≠
      (withTerms (some (.ofList [("name", some "")]))).toJson.print := by
  intro terms request withIds withTerms
  obtain ⟨hRead, hSame, -⟩ := written_requests_are_read_again
  have hLimit : fitsInt64 Number.maxInt64 = true := by decide
  have hIds : ∀ ids, (∀ given ∈ ids, ∀ id ∈ given, id.InRange) → (withIds ids).InRange :=
    fun ids h => ⟨h, by rintro _ ⟨⟩; exact hLimit, nofun⟩
  have hGiven : ∀ given ∈ request.ids, ∀ id ∈ given, id.InRange := by
    rintro _ ⟨⟩
    decide
  have hTerms : ∀ terms, (withTerms terms).InRange :=
    fun terms => ⟨hGiven, by rintro _ ⟨⟩; exact hLimit, nofun⟩
  refine ⟨(hRead request (hIds request.ids hGiven)).2, ?_, ?_, ?_, ?_⟩
  · rw [Ne, hSame _ _ (hIds none nofun) (hIds (some []) (by rintro _ ⟨⟩; decide))]
    decide
  · rw [Ne, hSame _ _ (hIds _ (by rintro _ ⟨⟩; decide)) (hIds _ (by rintro _ ⟨⟩; decide))]
    decide
  · rw [Ne, hSame _ _ (hTerms _) (hTerms _)]
    decide
  · rw [Ne, hSame _ _ (hTerms _) (hTerms _)]
    decide

end ListRequest
end FieldSearch
