/-!
# Maps keyed by text

A finite map from texts to values, held as the list of its entries in rising order of the keys.
Keys are ordered by code point. The order is part of the type, so two maps with the same entries are
equal, and walking a map visits its keys in that order.

## Main results

* `get?_insert_self`, `get?_insert_of_ne`: a key has the value last written to it.
-/

namespace FieldSearch

/-- Texts in rising order of code points, none repeated. -/
abbrev Rising {α : Type} (entries : List (String × α)) : Prop :=
  entries.Pairwise fun left right => left.1 < right.1

/-- A map from texts to values, by its entries in rising order of the keys. -/
structure KeyMap (α : Type) where
  entries : List (String × α)
  rising : Rising entries
deriving DecidableEq

namespace KeyMap

variable {α β : Type}

/-- The map without entries. -/
def empty : KeyMap α := ⟨[], .nil⟩

instance : Inhabited (KeyMap α) := ⟨empty⟩

/-- Puts an entry in its place among rising entries, over one with the same key. -/
def insertEntry (key : String) (value : α) : List (String × α) → List (String × α)
  | [] => [(key, value)]
  | (k, v) :: rest =>
      if key < k then (key, value) :: (k, v) :: rest
      else if key = k then (key, value) :: rest
      else (k, v) :: insertEntry key value rest

theorem lt_of_not_lt_of_ne {left right : String} (hLt : ¬ left < right) (hNe : left ≠ right) :
    right < left := by
  have hAntisymm : left ≤ right → right ≤ left → left = right := String.le_antisymm
  rcases String.le_total left right with h | h <;> grind

theorem mem_insertEntry {key : String} {value : α} {entries : List (String × α)}
    {entry : String × α} (h : entry ∈ insertEntry key value entries) :
    entry = (key, value) ∨ entry ∈ entries := by
  induction entries with
  | nil => exact Or.inl (by simpa [insertEntry] using h)
  | cons head rest ih =>
      obtain ⟨k, v⟩ := head
      simp only [insertEntry] at h
      split at h
      · simpa using h
      · split at h
        · simp only [List.mem_cons] at h ⊢
          exact h.imp id Or.inr
        · rcases List.mem_cons.mp h with rfl | h
          · simp
          · exact (ih h).imp id (List.mem_cons_of_mem _)

theorem rising_insertEntry {key : String} {value : α} {entries : List (String × α)}
    (h : Rising entries) : Rising (insertEntry key value entries) := by
  induction entries with
  | nil => simp [insertEntry, Rising]
  | cons head rest ih =>
      obtain ⟨k, v⟩ := head
      have hHead := List.pairwise_cons.mp h
      simp only [insertEntry]
      split
      · rename_i hLt
        refine List.pairwise_cons.mpr ⟨fun entry hEntry => ?_, h⟩
        rcases List.mem_cons.mp hEntry with rfl | hRest
        · exact hLt
        · exact String.lt_trans hLt (hHead.1 entry hRest)
      · split
        · rename_i hEq
          subst hEq
          exact List.pairwise_cons.mpr hHead
        · rename_i hLt hNe
          refine List.pairwise_cons.mpr ⟨fun entry hEntry => ?_, ih hHead.2⟩
          rcases mem_insertEntry hEntry with rfl | hRest
          · exact lt_of_not_lt_of_ne hLt hNe
          · exact hHead.1 entry hRest

/-- The map with one entry written. -/
def insert (map : KeyMap α) (key : String) (value : α) : KeyMap α :=
  ⟨insertEntry key value map.entries, rising_insertEntry map.rising⟩

/-- The value of a key. -/
def get? (map : KeyMap α) (key : String) : Option α := map.entries.lookup key

/-- The keys in rising order. -/
def keys (map : KeyMap α) : List String := map.entries.map Prod.fst

/-- The number of entries. -/
def size (map : KeyMap α) : Nat := map.entries.length

/-- Whether there is no entry. -/
def isEmpty (map : KeyMap α) : Bool := map.entries.isEmpty

/-- The map of the given entries; of several with one key the last counts. -/
def ofList (entries : List (String × α)) : KeyMap α :=
  entries.foldl (fun map entry => map.insert entry.1 entry.2) empty

/-- The map with every value replaced. -/
def mapValues (f : α → β) (map : KeyMap α) : KeyMap β :=
  ⟨map.entries.map fun entry => (entry.1, f entry.2), by
    simpa [Rising, List.pairwise_map] using map.rising⟩

theorem lookup_insertEntry_self (key : String) (value : α) (entries : List (String × α)) :
    (insertEntry key value entries).lookup key = some value := by
  induction entries with
  | nil => simp [insertEntry]
  | cons head rest ih =>
      obtain ⟨k, v⟩ := head
      simp only [insertEntry]
      split
      · simp
      · split
        · simp
        · rename_i hNe
          simp [List.lookup_cons, beq_false_of_ne hNe, ih]

theorem lookup_insertEntry_of_ne {key other : String} (value : α) (hNe : other ≠ key)
    (entries : List (String × α)) :
    (insertEntry key value entries).lookup other = entries.lookup other := by
  induction entries with
  | nil => simp [insertEntry, List.lookup_cons, beq_false_of_ne hNe]
  | cons head rest ih =>
      obtain ⟨k, v⟩ := head
      simp only [insertEntry]
      split
      · simp [List.lookup_cons, beq_false_of_ne hNe]
      · split
        · rename_i hEq
          subst hEq
          simp [List.lookup_cons, beq_false_of_ne hNe]
        · simp [List.lookup_cons, ih]

@[simp]
theorem get?_insert_self (map : KeyMap α) (key : String) (value : α) :
    (map.insert key value).get? key = some value :=
  lookup_insertEntry_self key value map.entries

theorem get?_insert_of_ne (map : KeyMap α) {key other : String} (value : α) (hNe : other ≠ key) :
    (map.insert key value).get? other = map.get? other :=
  lookup_insertEntry_of_ne value hNe map.entries

end KeyMap
end FieldSearch
