import FieldSearch.Json.Decoder
import FieldSearch.Proofs.Json.Reading
import Mathlib

/-!
# Decoders read back what is written

A decoder reads values and texts by separate rules.  `Decoder.Reads` says of both together
that they come to the same result: from a JSON value, and from its compact text wherever
that stands in a document.  Each of the ways to build a decoder has one lemma here, so that
the decoder of a type is followed as it is put together.

A structure is read from an object whose entries stand in any order, as long as the fields
may be written in any order; which field is written first is a matter of the writer.

## Main results

* `takes_foldEntries`: the run of the entries of an object.
* `Reads.list`, `Reads.keyMap`, `Reads.struct`: items, entries and fields are read one after the
  other.
* `Reads.struct_of_perm`: the order of the fields does not matter.
* `Reads.parse_print`: a whole document.
-/

namespace FieldSearch.Json

variable {α β σ : Type}

/-- What may stand behind a value: nothing, or the comma or the bracket of what it is a part of.  It
matters where a value is taken as far as it goes, like the digits of a number. -/
def Delimits (rest : List Char) : Prop := ∀ c ∈ rest.head?, c ∈ [',', ']', '\x7d']

theorem delimits_closed {bracket : Char} (h : bracket ∈ [']', '\x7d'])
    (parts : List (List Char)) (rest : List Char) :
    Delimits (closed bracket false parts ++ rest) := by
  intro c hc
  cases parts with
  | nil =>
      obtain rfl := Option.some.inj hc
      exact List.mem_cons_of_mem _ h
  | cons =>
      obtain rfl := Option.some.inj hc
      exact List.mem_cons_self

/-- The run of the entries of an object.  The state has to be ready for those that are left, and
each entry leaves it ready for the others. -/
theorem takes_foldEntries {ι : Type} {entry : σ → String → Reader σ} (key : ι → String)
    (content : ι → List Char) (step : σ → ι → σ) (Ready : σ → List ι → Prop)
    (hStep : ∀ state item items, Ready state (item :: items) →
      Ready (step state item) items ∧ ∀ rest, Delimits rest →
        Takes (entry state (key item)) (':' :: content item ++ rest) (step state item) rest)
    (rest : List Char) {items : List ι} : ∀ {fuel : Nat} (first : Bool) (state : σ),
      items.length < fuel → Ready state items →
        Takes (foldEntries entry fuel first state)
          (closed '\x7d' first (items.map fun item => entryText (key item) (content item)) ++ rest)
          (items.foldl step state) rest := by
  induction items with
  | nil =>
      intro fuel first state hFuel _
      obtain ⟨fuel, rfl⟩ := Nat.exists_eq_succ_of_ne_zero (Nat.ne_zero_of_lt hFuel)
      exact takes_foldEntries_nil
  | cons item items ih =>
      intro fuel first state hFuel hReady
      obtain ⟨fuel, rfl⟩ := Nat.exists_eq_succ_of_ne_zero (Nat.ne_zero_of_lt hFuel)
      obtain ⟨hOthers, hEntry⟩ := hStep state item items hReady
      have hBehind := delimits_closed (List.mem_cons_of_mem _ List.mem_cons_self)
        (items.map fun item => entryText (key item) (content item)) rest
      exact takes_foldEntries_cons (hEntry _ hBehind)
        (ih false _ (Nat.lt_of_succ_lt_succ hFuel) hOthers)

namespace Decoder

/-- The decoder reads the result from the value and from its compact text, with so much depth
left. -/
structure Reads (decoder : Decoder α) (depth : Nat) (json : Json) (result : α) : Prop where
  /-- The text does not look like a blank or like the end of a list, nor like null unless it is. -/
  opens : ∃ c text, json.print.toList = c :: text ∧ isBlank c = false ∧ c ≠ ']' ∧
    (c = 'n' → json = .null)
  ofJson : decoder.ofJson json = .ok result
  ofText : ∀ rest, Delimits rest →
    Takes (decoder.ofText depth) (json.print.toList ++ rest) result rest

section

variable {decoder : Decoder α} {depth : Nat} {json : Json} {result : α}

/-- **A document is read** if its value is. -/
theorem Reads.parse_print (h : decoder.Reads depthLimit json result) :
    decoder.parse json.print = .ok result := by
  have hText : Takes (decoder.ofText depthLimit) json.print.toList result [] := by
    rw [← List.append_nil json.print.toList]
    exact h.ofText [] nofun
  exact bind_eq_ok.mpr ⟨_, hText, rfl⟩

/-- What is read from a whole text is taken from its front. -/
theorem exists_takes_of_parse {document : String} (h : decoder.parse document = .ok result) :
    ∃ rest, Takes (decoder.ofText depthLimit) document.toList result rest := by
  obtain ⟨⟨value, rest⟩, hRun, hValue⟩ := bind_eq_ok.mp h
  dsimp only at hValue
  split at hValue
  · obtain rfl := Except.ok.inj hValue
    exact ⟨rest, hRun⟩
  · cases hValue

theorem Reads.map (f : α → β) (h : decoder.Reads depth json result) :
    (decoder.map f).Reads depth json (f result) where
  opens := h.opens
  ofJson := by
    rw [ofJson_map, h.ofJson]
    rfl
  ofText rest hRest := (h.ofText rest hRest).map f

/-- What passes the check is read as what the check makes of it. -/
theorem Reads.verify {check : α → Except String β} {checked : β}
    (hCheck : check result = .ok checked) (h : decoder.Reads depth json result) :
    (decoder.verify check).Reads depth json checked where
  opens := h.opens
  ofJson := ofJson_verify check decoder h.ofJson hCheck
  ofText rest hRest := by
    refine (h.ofText rest hRest).bind ?_
    rw [hCheck]
    rfl

/-- What was read from a value has passed the check. -/
theorem exists_of_ofJson_verify {check : α → Except String β} {checked : β}
    (h : (decoder.verify check).ofJson json = .ok checked) :
    ∃ value, decoder.ofJson json = .ok value ∧ check value = .ok checked := by
  obtain ⟨value, hValue, h⟩ := bind_eq_ok.mp h
  cases hCheck : check value with
  | error reason =>
      rw [hCheck] at h
      cases h
  | ok other =>
      rw [hCheck] at h
      obtain rfl := Except.ok.inj h
      exact ⟨value, hValue, hCheck⟩

/-- What was read from a text has passed the check. -/
theorem exists_of_parse_verify {check : α → Except String β} {checked : β} {document : String}
    (h : (decoder.verify check).parse document = .ok checked) :
    ∃ value, check value = .ok checked := by
  obtain ⟨rest, hTakes⟩ := exists_takes_of_parse h
  obtain ⟨value, middle, -, h⟩ := takes_bind_iff.mp hTakes
  cases hCheck : check value with
  | error reason =>
      rw [hCheck] at h
      cases h
  | ok other =>
      rw [hCheck] at h
      obtain ⟨rfl, -⟩ := takes_pure_iff.mp h
      exact ⟨value, hCheck⟩

/-! ## Simple values -/

theorem reads_text (depth : Nat) (value : String) : text.Reads depth (.text value) value where
  opens := ⟨_, _, toList_printText value, rfl, by decide, nofun⟩
  ofJson := rfl
  ofText rest _ := by
    rw [print, toList_printText, List.cons_append, List.append_assoc]
    exact (takes_peek rfl _).bind (takes_advance.bind (takes_readTextBody value))

theorem reads_bool (depth : Nat) (value : Bool) : bool.Reads depth (.bool value) value where
  opens := by cases value <;> exact ⟨_, _, rfl, rfl, by decide, nofun⟩
  ofJson := rfl
  ofText rest _ := by
    cases value with
    | true =>
        exact (takes_peek rfl _).bind (takes_advance.bind
          ((takes_expectWord ['r', 'u', 'e']).bind rfl))
    | false =>
        exact (takes_peek rfl _).bind (takes_advance.bind
          ((takes_expectWord ['a', 'l', 's', 'e']).bind rfl))

/-- A text is read again as a value of any kind. -/
theorem reads_value_text (depth : Nat) (content : String) :
    value.Reads depth (.text content) (.text content) where
  opens := (reads_text depth content).opens
  ofJson := rfl
  ofText rest _ := by
    rw [print, toList_printText, List.cons_append, List.append_assoc]
    exact takes_get.bind ((takes_peek rfl _).bind (takes_advance.bind
      ((takes_readTextBody content).map Json.text)))

/-- A name stands for its variant. -/
theorem reads_choice {variants : List (String × α)} {name : String} {value : α}
    (h : variants.lookup name = some value) (depth : Nat) :
    (choice variants).Reads depth (.text name) value where
  opens := (reads_text depth name).opens
  ofJson := by
    show choose variants name = _
    rw [choose, h]
    rfl
  ofText rest _ := by
    have hChoose : choose variants name = .ok value := by
      rw [choose, h]
      rfl
    rw [print, toList_printText, List.cons_append, List.append_assoc]
    exact (takes_peek rfl _).bind (takes_advance.bind
      ((takes_readTextBody name).bind (takes_lift hChoose)))

theorem reads_none (decoder : Decoder α) (depth : Nat) :
    decoder.optional.Reads depth .null none where
  opens := ⟨_, _, rfl, rfl, by decide, fun _ => rfl⟩
  ofJson := rfl
  ofText _ _ := rfl

theorem Reads.some (hNull : json ≠ .null) (h : decoder.Reads depth json result) :
    decoder.optional.Reads depth json (some result) where
  opens := h.opens
  ofJson := by
    have hValue : decoder.optional.ofJson json = Option.some <$> decoder.ofJson json := by
      cases json with
      | null => exact absurd rfl hNull
      | _ => rfl
    rw [hValue, h.ofJson]
    rfl
  ofText rest hRest := by
    obtain ⟨c, text, hText, hBlank, -, hLetter⟩ := h.opens
    have hRead := (h.ofText rest hRest).map Option.some
    rw [hText, List.cons_append] at hRead ⊢
    refine takes_get.bind ?_
    rw [skipBlanks, hBlank]
    -- Null is known by its first letter, with which no other value begins.
    have hOther : c ≠ 'n' := fun hEq => hNull (hLetter hEq)
    simpa [hOther] using hRead

theorem ofJson_either_of_eq_ok {name : String} {first second : Decoder α}
    (h : first.ofJson json = .ok result) : (either name first second).ofJson json = .ok result := by
  rw [either]
  dsimp only
  rw [h]
  rfl

/-- **One of two forms** is read as a value first, of which the form is settled then. -/
theorem Reads.either {name : String} {first second : Decoder α}
    (hForm : (either name first second).ofJson json = .ok result)
    (h : value.Reads depth json json) : (either name first second).Reads depth json result where
  opens := h.opens
  ofJson := hForm
  ofText rest hRest := (h.ofText rest hRest).bind (takes_lift hForm)

/-! ## Lists and maps -/

/-- The run of the items: what has been read comes last item first. -/
theorem takes_items {items : List Json} {results : List α}
    (h : List.Forall₂ (decoder.Reads depth) items results) (rest : List Char) :
    ∀ {fuel : Nat} (first : Bool) (read : List α), items.length < fuel →
      Takes (foldItems (fun read => do
          let item ← decoder.ofText depth
          pure (item :: read)) fuel first read)
        (closed ']' first (items.map fun item => item.print.toList) ++ rest)
        (results.reverse ++ read) rest := by
  induction h with
  | nil =>
      intro fuel first read hFuel
      obtain ⟨fuel, rfl⟩ := Nat.exists_eq_succ_of_ne_zero (Nat.ne_zero_of_lt hFuel)
      exact takes_foldItems_nil
  | @cons item result items results hItem hItems ih =>
      intro fuel first read hFuel
      obtain ⟨fuel, rfl⟩ := Nat.exists_eq_succ_of_ne_zero (Nat.ne_zero_of_lt hFuel)
      obtain ⟨c, text, hText, hBlank, hOpen, -⟩ := hItem.opens
      have hRead := hItem.ofText _ (delimits_closed (List.mem_cons_self)
        (items.map fun item => item.print.toList) rest)
      have hMore := ih false (result :: read) (Nat.lt_of_succ_lt_succ hFuel)
      rw [List.map_cons, List.reverse_cons, List.append_assoc, List.singleton_append]
      rw [hText] at hRead ⊢
      exact takes_foldItems_cons hBlank hOpen (hRead.bind rfl) hMore

/-- **A list is read** if its items are, inside one more bracket. -/
theorem Reads.list {items : List Json} {results : List α}
    (h : List.Forall₂ (decoder.Reads depth) items results) :
    decoder.list.Reads (depth + 1) (.list items) results where
  opens := ⟨_, _, toList_print_list items, rfl, by decide, nofun⟩
  ofJson := mapM_eq_ok.mpr (h.imp fun _ _ hItem => hItem.ofJson)
  ofText rest _ := by
    have hFuel :=
      length_lt_length_closed ']' (items.map fun item => item.print.toList) rest
    rw [List.length_map] at hFuel
    have hItems := takes_items h rest true [] hFuel
    rw [List.append_nil] at hItems
    rw [toList_print_list]
    refine (takes_peek rfl _).bind ?_
    rw [if_pos rfl]
    refine takes_deeper.bind (takes_advance.bind (takes_get.bind (hItems.bind ?_)))
    rw [List.reverse_reverse]
    rfl

/-- The run of the entries of a map as values. -/
theorem foldlM_insert {write : α → Json} {entries : List (String × α)}
    (h : ∀ entry ∈ entries, decoder.Reads depth (write entry.2) entry.2) : ∀ map : KeyMap α,
      (entries.map fun entry => (entry.1, write entry.2)).foldlM (fun map entry => do
          let value ← decoder.ofJson entry.2
          pure (map.insert entry.1 value)) map =
        .ok (entries.foldl (fun map entry => map.insert entry.1 entry.2) map) := by
  induction entries with
  | nil => exact fun _ => rfl
  | cons entry entries ih =>
      intro map
      obtain ⟨hEntry, hOthers⟩ := List.forall_mem_cons.mp h
      rw [List.map_cons, List.foldlM_cons, hEntry.ofJson, List.foldl_cons]
      exact ih hOthers (map.insert entry.1 entry.2)

/-- **A map is read** if its values are read from what they are written as, inside one more
bracket. -/
theorem Reads.keyMap {write : α → Json} {entries : List (String × α)}
    (h : ∀ entry ∈ entries, decoder.Reads depth (write entry.2) entry.2) :
    decoder.keyMap.Reads (depth + 1) (.object (entries.map fun entry => (entry.1, write entry.2)))
      (KeyMap.ofList entries) where
  opens := ⟨_, _, toList_print_object _, rfl, by decide, nofun⟩
  ofJson := foldlM_insert h KeyMap.empty
  ofText rest _ := by
    have hFuel := length_lt_length_closed '\x7d'
      (entries.map fun entry => entryText entry.1 (write entry.2).print.toList) rest
    rw [List.length_map] at hFuel
    rw [toList_print_object, List.map_map]
    refine (takes_peek rfl _).bind (takes_deeper.bind (takes_advance.bind (takes_get.bind ?_)))
    refine takes_foldEntries Prod.fst (fun entry => (write entry.2).print.toList)
      (fun map entry => map.insert entry.1 entry.2)
      (fun _ entries => ∀ entry ∈ entries, decoder.Reads depth (write entry.2) entry.2) ?_ rest
      true KeyMap.empty hFuel h
    intro map entry entries hReads
    obtain ⟨hEntry, hOthers⟩ := List.forall_mem_cons.mp hReads
    exact ⟨hOthers, fun rest hRest =>
      takes_expectColon.bind ((hEntry.ofText rest hRest).bind rfl)⟩

end

/-! ## Structures -/

/-- An entry of an object for a field of a structure, with what its value does to the structure. -/
structure Row (σ : Type) where
  key : String
  json : Json
  update : σ → σ

/-- The entry itself. -/
def Row.entry (row : Row σ) : String × Json := (row.key, row.json)

/-- What the rows do together, one after the other. -/
def Row.updates (rows : List (Row σ)) (state : σ) : σ :=
  rows.foldl (fun state row => row.update state) state

/-- The row belongs to one of the fields, which reads its value as what it does. -/
abbrev Row.Belongs (fields : List (Field σ)) (depth : Nat) (row : Row σ) : Prop :=
  ∃ field, findField fields row.key = some field ∧ field.decoder.Reads depth row.json row.update

/-- The rows are those of an object that represents a structure with these fields. -/
structure Fits (fields : List (Field σ)) (depth : Nat) (rows : List (Row σ)) : Prop where
  reads : ∀ row ∈ rows, row.Belongs fields depth
  nodup : (rows.map Row.key).Nodup
  required : ∀ field ∈ fields, field.isOptional = false → field.key ∈ rows.map Row.key

section

variable {fields : List (Field σ)} {depth : Nat} {row : Row σ} {rows : List (Row σ)}

theorem Fits.perm {others : List (Row σ)} (h : Fits fields depth rows) (hPerm : others.Perm rows) :
    Fits fields depth others where
  reads row hRow := h.reads row (hPerm.mem_iff.mp hRow)
  nodup := (hPerm.map Row.key).nodup_iff.mpr h.nodup
  required field hField hRequired :=
    (hPerm.map Row.key).mem_iff.mpr (h.required field hField hRequired)

theorem checkNew_eq_ok {seen : List String} {key : String} (h : key ∉ seen) :
    checkNew seen key = .ok () := by
  rw [checkNew, if_neg]
  · rfl
  · rwa [List.contains_iff_mem]

theorem key_eq_of_findField {key : String} {field : Field σ}
    (h : findField fields key = some field) : field.key = key := by
  simpa using List.find?_some h

theorem finishFields_eq_ok {state : σ} {seen : List String}
    (h : ∀ field ∈ fields, field.isOptional = false → field.key ∈ seen) :
    finishFields fields (state, seen) = .ok state := by
  have hNone : (fields.find? fun field => !field.isOptional && !seen.contains field.key) = none := by
    rw [List.find?_eq_none]
    intro field hField hMissing
    rw [Bool.and_eq_true, Bool.not_eq_true', Bool.not_eq_true'] at hMissing
    have hSeen := List.contains_iff_mem.mpr (h field hField hMissing.1)
    rw [hMissing.2] at hSeen
    cases hSeen
  rw [finishFields, hNone]
  rfl

/-- The keys of the rows come before those that have been seen, last key first. -/
theorem nodup_keys_cons {seen : List String}
    (h : (((row :: rows).map Row.key).reverse ++ seen).Nodup) :
    row.key ∉ seen ∧ ((rows.map Row.key).reverse ++ row.key :: seen).Nodup := by
  rw [List.map_cons, List.reverse_cons, List.append_assoc, List.singleton_append] at h
  exact ⟨(List.nodup_cons.mp (List.nodup_append.mp h).2.1).1, h⟩

/-- The run of the entries as values. -/
theorem foldlM_readField (hReads : ∀ row ∈ rows, row.Belongs fields depth) :
    ∀ {state : σ} {seen : List String}, ((rows.map Row.key).reverse ++ seen).Nodup →
      (rows.map Row.entry).foldlM (readField fields) (state, seen) =
        .ok (Row.updates rows state, (rows.map Row.key).reverse ++ seen) := by
  induction rows with
  | nil => exact fun _ => rfl
  | cons row rows ih =>
      intro state seen hNodup
      obtain ⟨⟨field, hField, hRow⟩, hRows⟩ := List.forall_mem_cons.mp hReads
      obtain ⟨hFresh, hOthers⟩ := nodup_keys_cons hNodup
      have hStep : readField fields (state, seen) row.entry =
          .ok (row.update state, row.key :: seen) := by
        rw [readField, Row.entry]
        dsimp only
        rw [hField]
        dsimp only
        rw [key_eq_of_findField hField, checkNew_eq_ok hFresh, hRow.ofJson]
        rfl
      rw [List.map_cons, List.foldlM_cons, hStep, List.map_cons, List.reverse_cons,
        List.append_assoc]
      exact ih hRows hOthers

/-- One entry of an object in a text, its key having been read. -/
def takeField (fields : List (Field σ)) (depth : Nat) (state : σ × List String) (key : String) :
    Reader (σ × List String) := do
  match findField fields key with
  | none =>
      expectColon
      skipValue
      pure state
  | some field =>
      liftM (checkNew state.2 field.key)
      expectColon
      let update ← field.decoder.ofText depth
      pure (update state.1, field.key :: state.2)

/-- What an entry does to the structure and to the fields that have been seen. -/
def Row.take (state : σ × List String) (row : Row σ) : σ × List String :=
  (row.update state.1, row.key :: state.2)

theorem foldl_take (rows : List (Row σ)) : ∀ state : σ × List String,
    rows.foldl Row.take state =
      (Row.updates rows state.1, (rows.map Row.key).reverse ++ state.2) := by
  induction rows with
  | nil => exact fun _ => rfl
  | cons row rows ih =>
      intro state
      rw [List.foldl_cons, ih, List.map_cons, List.reverse_cons, List.append_assoc]
      rfl

/-- One entry is taken by its field, unless that has been seen. -/
theorem takes_takeField {state : σ × List String} (hRow : row.Belongs fields depth)
    (hFresh : row.key ∉ state.2) {rest : List Char} (hRest : Delimits rest) :
    Takes (takeField fields depth state row.key) (':' :: row.json.print.toList ++ rest)
      (row.take state) rest := by
  obtain ⟨field, hField, hReads⟩ := hRow
  rw [takeField, hField]
  dsimp only
  rw [key_eq_of_findField hField]
  exact (takes_lift (checkNew_eq_ok hFresh)).bind
    (takes_expectColon.bind ((hReads.ofText rest hRest).bind rfl))

/-- The run of the entries in a text. -/
theorem takes_entries (hReads : ∀ row ∈ rows, row.Belongs fields depth) (rest : List Char)
    {fuel : Nat} (first : Bool) (state : σ × List String) (hFuel : rows.length < fuel)
    (hNodup : ((rows.map Row.key).reverse ++ state.2).Nodup) :
    Takes (foldEntries (takeField fields depth) fuel first state)
      (closed '\x7d' first (rows.map fun row => entryText row.key row.json.print.toList) ++ rest)
      (Row.updates rows state.1, (rows.map Row.key).reverse ++ state.2) rest := by
  rw [← foldl_take]
  refine takes_foldEntries Row.key (fun row => row.json.print.toList) Row.take
    (fun state rows => (∀ row ∈ rows, row.Belongs fields depth) ∧
      ((rows.map Row.key).reverse ++ state.2).Nodup) ?_ rest first state hFuel ⟨hReads, hNodup⟩
  rintro state row rows ⟨hReads, hNodup⟩
  obtain ⟨hRow, hRows⟩ := List.forall_mem_cons.mp hReads
  obtain ⟨hFresh, hOthers⟩ := nodup_keys_cons hNodup
  exact ⟨⟨hRows, hOthers⟩, fun rest hRest => takes_takeField hRow hFresh hRest⟩

/-- **A structure is read** if its fields are, inside one more bracket. -/
theorem Reads.struct (shape : String) (initial : σ) (h : Fits fields depth rows) :
    (struct shape initial fields).Reads (depth + 1) (.object (rows.map Row.entry))
      (Row.updates rows initial) := by
  have hNodup : ((rows.map Row.key).reverse ++ []).Nodup := by
    rw [List.append_nil]
    exact List.nodup_reverse.mpr h.nodup
  have hFinish : finishFields fields (Row.updates rows initial, (rows.map Row.key).reverse ++ []) =
      .ok (Row.updates rows initial) := by
    refine finishFields_eq_ok fun field hField hRequired => ?_
    rw [List.append_nil, List.mem_reverse]
    exact h.required field hField hRequired
  refine ⟨⟨_, _, toList_print_object _, rfl, by decide, nofun⟩, ?_, fun rest _ => ?_⟩
  · exact bind_eq_ok.mpr ⟨_, foldlM_readField h.reads hNodup, hFinish⟩
  · have hText : (print (.object (rows.map Row.entry))).toList = '\x7b' ::
        closed '\x7d' true (rows.map fun row => entryText row.key row.json.print.toList) := by
      rw [toList_print_object, List.map_map]
      rfl
    have hFuel := length_lt_length_closed '\x7d'
      (rows.map fun row => entryText row.key row.json.print.toList) rest
    rw [List.length_map] at hFuel
    have hEntries := takes_entries h.reads rest true (initial, []) hFuel hNodup
    rw [hText]
    exact (takes_peek rfl _).bind (takes_deeper.bind (takes_advance.bind
      (takes_get.bind (hEntries.bind (takes_lift hFinish)))))

/-- **The order of the fields does not matter**, where it does not matter in which order they are
written to the structure. -/
theorem Reads.struct_of_perm {shape : String} {initial result : σ} (rows : List (Row σ))
    (hResult : Row.updates rows initial = result) (h : Fits fields depth rows)
    (hCommute : ∀ left ∈ rows, ∀ right ∈ rows, ∀ state,
      right.update (left.update state) = left.update (right.update state))
    {entries : List (String × Json)} (hEntries : entries.Perm (rows.map Row.entry)) :
    (Decoder.struct shape initial fields).Reads (depth + 1) (.object entries) result := by
  obtain ⟨others, rfl, hPerm⟩ : ∃ others : List (Row σ), entries = others.map Row.entry ∧
      others.Perm rows := (congrFun₂ (List.eq_map_comp_perm Row.entry) entries rows).mpr hEntries
  have hSame : Row.updates others initial = Row.updates rows initial :=
    hPerm.foldl_eq' (fun left hLeft right hRight state =>
      hCommute left (hPerm.mem_iff.mp hLeft) right (hPerm.mem_iff.mp hRight) state) initial
  rw [← hResult, ← hSame]
  exact .struct shape initial (h.perm hPerm)

end

end Decoder
end FieldSearch.Json
