import FieldSearch.Proofs.Outcome
import FieldSearch.Query.Page
import Mathlib

/-!
# Settled pages

A request is refused its page only for a limit or an offset below zero.  Otherwise it is
granted the limit that it asks for, up to the greatest one of the configuration.  Since a
configuration is checked before it is used, its default limit is no exception.

## Main results

* `settleLimit_eq_error`, `settleOffset_eq_error`: what is refused.
* `page_eq_ok`, `page_nonneg`, `page_of_nonneg`: the page of a request that is not refused.
* `grantedLimit_le`: it is within the bounds of the configuration.
-/

namespace FieldSearch

namespace ListRequest

/-! ## What is refused -/

theorem settleLimit_eq_error {config : SearchConfig} {asked : Option Int} {fault : QueryError} :
    (settleLimit config asked).outcome = .error fault ↔
      ∃ limit, asked = some limit ∧ limit < 0 ∧ fault = .invalidPaging "limit" limit := by
  cases asked with
  | none =>
      constructor
      · intro h
        cases h
      · rintro ⟨_, hNone, -⟩
        cases hNone
  | some limit =>
      rw [settleLimit]
      by_cases hNegative : limit < 0
      · rw [if_pos hNegative]
        constructor
        · intro h
          exact ⟨limit, rfl, hNegative, (Except.error.inj h).symm⟩
        · rintro ⟨other, hOther, -, rfl⟩
          obtain rfl := Option.some.inj hOther
          rfl
      · rw [if_neg hNegative]
        refine iff_of_false ?_ ?_
        · split <;> intro h <;> cases h
        · rintro ⟨other, hOther, hOtherNegative, -⟩
          obtain rfl := Option.some.inj hOther
          exact hNegative hOtherNegative

theorem settleOffset_eq_error {asked : Option Int} {fault : QueryError} :
    (settleOffset asked).outcome = .error fault ↔
      ∃ offset, asked = some offset ∧ offset < 0 ∧ fault = .invalidPaging "offset" offset := by
  cases asked with
  | none =>
      constructor
      · intro h
        cases h
      · rintro ⟨_, hNone, -⟩
        cases hNone
  | some offset =>
      rw [settleOffset]
      by_cases hNegative : offset < 0
      · rw [if_pos hNegative]
        constructor
        · intro h
          exact ⟨offset, rfl, hNegative, (Except.error.inj h).symm⟩
        · rintro ⟨other, hOther, -, rfl⟩
          obtain rfl := Option.some.inj hOther
          rfl
      · rw [if_neg hNegative]
        constructor
        · intro h
          cases h
        · rintro ⟨other, hOther, hOtherNegative, -⟩
          obtain rfl := Option.some.inj hOther
          exact absurd hOtherNegative hNegative

/-! ## What is granted -/

/-- The limit that a request is granted: the default one if it asks for none, else the one it asks
for, up to the greatest. -/
def grantedLimit (request : ListRequest) (config : SearchConfig) : Int :=
  match request.limit with
  | none => config.defaultLimit
  | some limit => min limit config.maxLimit

variable {request : ListRequest} {config : SearchConfig}

theorem settleLimit_eq_ok {limit : Int}
    (h : (settleLimit config request.limit).outcome = .ok limit) :
    limit = request.grantedLimit config ∧ 0 ≤ limit := by
  rw [grantedLimit]
  cases hAsked : request.limit with
  | none =>
      rw [hAsked] at h
      obtain rfl := Except.ok.inj h
      exact ⟨rfl, Int.natCast_nonneg _⟩
  | some asked =>
      rw [hAsked, settleLimit] at h
      dsimp only
      split at h
      · cases h
      · split at h
        · obtain rfl := Except.ok.inj h
          omega
        · obtain rfl := Except.ok.inj h
          omega

/-- A limit within the bounds is granted as it is. -/
theorem settleLimit_of_le {limit : Int} (hNonneg : 0 ≤ limit) (hLimit : limit ≤ config.maxLimit) :
    (settleLimit config (some limit)).outcome = .ok limit := by
  rw [settleLimit, if_neg (Int.not_lt.mpr hNonneg), if_neg (Int.not_lt.mpr hLimit)]
  rfl

theorem settleOffset_eq_ok {offset : Int}
    (h : (settleOffset request.offset).outcome = .ok offset) :
    offset = request.offset.getD 0 ∧ 0 ≤ offset := by
  cases hAsked : request.offset with
  | none =>
      rw [hAsked] at h
      obtain rfl := Except.ok.inj h
      exact ⟨rfl, Int.le_refl 0⟩
  | some asked =>
      rw [hAsked, settleOffset] at h
      split at h
      · cases h
      · obtain rfl := Except.ok.inj h
        exact ⟨rfl, by omega⟩

theorem settleOffset_of_nonneg {offset : Int} (hNonneg : 0 ≤ offset) :
    (settleOffset (some offset)).outcome = .ok offset := by
  rw [settleOffset, if_neg (Int.not_lt.mpr hNonneg)]
  rfl

/-- **The page of a request** has the limit that is granted and begins where it is asked to. -/
theorem page_eq_ok {page : Page} (h : (request.page config).outcome = .ok page) :
    page = ⟨request.grantedLimit config, request.offset.getD 0⟩ := by
  obtain ⟨limit, hLimit, h⟩ := Logged.outcome_bind_eq_ok.mp h
  obtain ⟨offset, hOffset, h⟩ := Logged.outcome_bind_eq_ok.mp h
  obtain rfl := Except.ok.inj h
  rw [(settleLimit_eq_ok hLimit).1, (settleOffset_eq_ok hOffset).1]

/-- **A request that asks for no limit and no offset below zero** has the page that is granted. -/
theorem page_of_nonneg (hLimit : ∀ limit ∈ request.limit, 0 ≤ limit)
    (hOffset : ∀ offset ∈ request.offset, 0 ≤ offset) :
    (request.page config).outcome =
      .ok ⟨request.grantedLimit config, request.offset.getD 0⟩ := by
  cases hPage : (request.page config).outcome with
  | ok page => rw [page_eq_ok hPage]
  | error fault =>
      rcases Logged.outcome_bind_eq_error.mp hPage with hRefused | ⟨limit, -, hPage⟩
      · obtain ⟨limit, hAsked, hNegative, -⟩ := settleLimit_eq_error.mp hRefused
        exact absurd (hLimit limit hAsked) (Int.not_le.mpr hNegative)
      rcases Logged.outcome_bind_eq_error.mp hPage with hRefused | ⟨offset, -, hPage⟩
      · obtain ⟨offset, hAsked, hNegative, -⟩ := settleOffset_eq_error.mp hRefused
        exact absurd (hOffset offset hAsked) (Int.not_le.mpr hNegative)
      cases hPage

/-- A settled page begins at a row and has a number of rows. -/
theorem page_nonneg {page : Page} (h : (request.page config).outcome = .ok page) :
    0 ≤ page.limit ∧ 0 ≤ page.offset := by
  obtain ⟨limit, hLimit, h⟩ := Logged.outcome_bind_eq_ok.mp h
  obtain ⟨offset, hOffset, h⟩ := Logged.outcome_bind_eq_ok.mp h
  obtain rfl := Except.ok.inj h
  exact ⟨(settleLimit_eq_ok hLimit).2, (settleOffset_eq_ok hOffset).2⟩

end ListRequest

namespace SearchConfig

theorem problems_eq_nil {config : SearchConfig} {result : Unit}
    (h : config.validate = .ok result) : config.problems = [] := by
  by_contra hProblem
  rw [validate, if_neg (by simpa using hProblem)] at h
  cases h

theorem defaultLimit_le_maxLimit {config : SearchConfig} {result : Unit}
    (h : config.validate = .ok result) : config.defaultLimit ≤ config.maxLimit := by
  by_contra hExceeds
  have hNone := problems_eq_nil h
  rw [problems, if_pos (by omega : config.maxLimit < config.defaultLimit)] at hNone
  simp at hNone

/-- Pages of a valid configuration may have a record. -/
theorem maxLimit_pos {config : SearchConfig} {result : Unit}
    (h : config.validate = .ok result) : 0 < config.maxLimit := by
  by_contra hZero
  have hNone := problems_eq_nil h
  rw [problems, if_pos (by omega : config.maxLimit = 0)] at hNone
  simp at hNone

end SearchConfig

/-- **A granted limit is within the bounds of the configuration.** -/
theorem ListRequest.grantedLimit_le {request : ListRequest} {config : SearchConfig}
    (hBounds : config.defaultLimit ≤ config.maxLimit) :
    request.grantedLimit config ≤ config.maxLimit := by
  rw [grantedLimit]
  cases request.limit with
  | none => exact Int.ofNat_le.mpr hBounds
  | some limit => exact Int.min_le_right limit config.maxLimit

end FieldSearch
