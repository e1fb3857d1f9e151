import Mathlib

/-!
# Lists paired item by item

Templates are paired with what they render, values with the ids that they come
from, and tokens with the characters that they stand for.  A pair knows that its
two sides are members of the two lists, and every member has its other side.
-/

namespace FieldSearch

variable {α β : Type} {related others : α → β → Prop} {left : List α} {right : List β}

/-- What holds of a pair of members may be used to weaken how they are related. -/
theorem forall₂_imp_of_mem (h : List.Forall₂ related left right)
    (hImp : ∀ a ∈ left, ∀ b ∈ right, related a b → others a b) :
    List.Forall₂ others left right := by
  rw [List.forall₂_iff_zip] at h ⊢
  refine ⟨h.1, fun {a b} hZip => ?_⟩
  obtain ⟨ha, hb⟩ := List.of_mem_zip hZip
  exact hImp a ha b hb (h.2 hZip)

theorem exists_of_mem_left (h : List.Forall₂ related left right) {a : α} (ha : a ∈ left) :
    ∃ b ∈ right, related a b := by
  induction h with
  | nil => cases ha
  | cons hFirst _ ih =>
      rcases List.mem_cons.mp ha with rfl | hRest
      · exact ⟨_, List.mem_cons_self, hFirst⟩
      · obtain ⟨b, hb, hRelated⟩ := ih hRest
        exact ⟨b, List.mem_cons_of_mem _ hb, hRelated⟩

theorem exists_of_mem_right (h : List.Forall₂ related left right) {b : β} (hb : b ∈ right) :
    ∃ a ∈ left, related a b := exists_of_mem_left h.flip hb

end FieldSearch
