import FieldSearch.KeyMap
import Mathlib

/-!
# Maps and their entries

A map is known by its values as well as by its entries, which are in rising order.  A map
that is written entry by entry has of several values for one key the last; its own
entries, written one after the other, give the map again, since each of them belongs behind all
that were written before.

## Main results

* `get?_eq_some_iff`: a key has a value exactly if the two are an entry.
* `get?_ofList`: the value of a key is the one that was written last.
* `ofList_entries`: a map is made of its entries.
-/

namespace FieldSearch.KeyMap

variable {α : Type}

@[ext]
theorem ext {left right : KeyMap α} (h : left.entries = right.entries) : left = right := by
  cases left
  cases right
  congr

/-- A key has a value exactly if the two are an entry. -/
theorem get?_eq_some_iff {map : KeyMap α} {key : String} {value : α} :
    map.get? key = some value ↔ (key, value) ∈ map.entries := by
  obtain ⟨entries, rising⟩ := map
  simp only [get?]
  induction entries with
  | nil => simp
  | cons head rest ih =>
      obtain ⟨k, v⟩ := head
      obtain ⟨hHead, hRest⟩ := List.pairwise_cons.mp rising
      rw [List.lookup_cons]
      by_cases hKey : key = k
      · subst hKey
        have hOther : (key, value) ∉ rest := fun hMem =>
          String.lt_irrefl _ (hHead (key, value) hMem)
        simp [hOther, eq_comm]
      · simp [beq_false_of_ne hKey, ih hRest, hKey]

theorem get?_eq_none_iff {map : KeyMap α} {key : String} :
    map.get? key = none ↔ key ∉ map.keys := by
  rw [Option.eq_none_iff_forall_ne_some, keys]
  constructor
  · intro hNone hMem
    obtain ⟨⟨k, v⟩, hEntry, rfl⟩ := List.mem_map.mp hMem
    exact hNone v (get?_eq_some_iff.mpr hEntry)
  · intro hNot value hValue
    exact hNot (List.mem_map_of_mem (get?_eq_some_iff.mp hValue))

/-! ## Maps written entry by entry -/

theorem ofList_concat (entries : List (String × α)) (entry : String × α) :
    ofList (entries ++ [entry]) = (ofList entries).insert entry.1 entry.2 := by
  rw [ofList, List.foldl_concat, ofList]

/-- **The value of a key is the one that was written last.** -/
theorem get?_ofList (entries : List (String × α)) (key : String) :
    (ofList entries).get? key = entries.reverse.lookup key := by
  induction entries using List.reverseRecOn with
  | nil => rfl
  | append_singleton entries entry ih =>
      rw [ofList_concat, List.reverse_concat, List.lookup_cons]
      by_cases hKey : key = entry.1
      · rw [hKey, get?_insert_self, beq_self_eq_true]
      · rw [get?_insert_of_ne _ _ hKey, ih, beq_false_of_ne hKey]

/-- Of entries with different keys it does not matter which was written last. -/
theorem get?_ofList_of_nodup {entries : List (String × α)} (hNodup : (entries.map Prod.fst).Nodup)
    (key : String) : (ofList entries).get? key = entries.lookup key := by
  rw [get?_ofList]
  induction entries with
  | nil => rfl
  | cons first rest ih =>
      obtain ⟨name, value⟩ := first
      obtain ⟨hFresh, hRest⟩ := List.nodup_cons.mp hNodup
      rw [List.reverse_cons, List.lookup_append, ih hRest, List.lookup_cons, List.lookup_cons]
      by_cases hKey : key = name
      · have hNone : rest.lookup key = none := by
          rw [List.lookup_eq_none_iff]
          exact fun entry hEntry => bne_iff_ne.mpr fun hSame =>
            hFresh (List.mem_map.mpr ⟨entry, hEntry, hSame.symm.trans hKey⟩)
        rw [hNone, hKey, beq_self_eq_true]
        rfl
      · rw [beq_false_of_ne hKey]
        exact Option.or_none

/-- The keys are those that were written. -/
theorem mem_keys_ofList {entries : List (String × α)} {key : String} :
    key ∈ (ofList entries).keys ↔ ∃ entry ∈ entries, entry.1 = key := by
  have hNone : key ∉ (ofList entries).keys ↔ ∀ entry ∈ entries, entry.1 ≠ key := by
    rw [← get?_eq_none_iff, get?_ofList, List.lookup_eq_none_iff]
    simp [ne_comm]
  rw [← not_iff_not, hNone]
  simp only [ne_eq, not_exists, not_and]

/-- An entry whose key is behind all others is written behind them. -/
theorem insertEntry_of_forall_lt {key : String} (value : α) {entries : List (String × α)}
    (h : ∀ entry ∈ entries, entry.1 < key) :
    insertEntry key value entries = entries ++ [(key, value)] := by
  induction entries with
  | nil => rfl
  | cons head rest ih =>
      obtain ⟨k, v⟩ := head
      obtain ⟨hHead, hRest⟩ := List.forall_mem_cons.mp h
      have hNe : key ≠ k := fun hEq => String.lt_irrefl k (hEq ▸ hHead)
      have hNotLt : ¬ key < k := fun hLt => String.lt_irrefl k (String.lt_trans hHead hLt)
      rw [insertEntry, if_neg hNotLt, if_neg hNe, ih hRest, List.cons_append]

theorem entries_ofList {entries : List (String × α)} (h : Rising entries) :
    (ofList entries).entries = entries := by
  induction entries using List.reverseRecOn with
  | nil => rfl
  | append_singleton entries entry ih =>
      obtain ⟨hRising, -, hLast⟩ := List.pairwise_append.mp h
      have hBehind : ∀ other ∈ entries, other.1 < entry.1 := fun other hMem =>
        hLast other hMem entry (List.mem_singleton_self entry)
      calc (ofList (entries ++ [entry])).entries
          = insertEntry entry.1 entry.2 (ofList entries).entries := by rw [ofList_concat]; rfl
        _ = insertEntry entry.1 entry.2 entries := by rw [ih hRising]
        _ = entries ++ [entry] := insertEntry_of_forall_lt entry.2 hBehind

/-- **A map is made of its entries.** -/
theorem ofList_entries (map : KeyMap α) : ofList map.entries = map :=
  ext (entries_ofList map.rising)

end FieldSearch.KeyMap
