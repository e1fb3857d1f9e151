import FieldSearch.Proofs.Query.Statement
import FieldSearch.Proofs.Search.Sought
import FieldSearch.Proofs.Sql.Expressible
import FieldSearch.Proofs.Text.Occurrence
import Mathlib

/-!
# The best field of a row

A ranking sorts by two keys, each of which folds all fields into one number: whether any of
them begins with its term, and the earliest position of a term in its field.  The two are
folded apart from each other, so it could be that the flag comes from one field and the
position from another.  It cannot make a difference: a field that begins with its term has
the term in its first position, and no position is earlier.  So the two keys together are
the best pair of flag and position that any one field has.

That depends on the escaping of the terms.  If a wildcard in a term meant anything, a field
could have the flag without having the term in it.

What a database does with texts is assumed, not modelled: `Sight.IgnoresCase` says that it
compares a text with a pattern, and looks for a term in a text, with all characters in
lower case.  Fields may be null.

## Main results

* `value_flag`, `value_position`: what a row scores in one field.
* `isLeast_standing`: the two numbers are those of the best field.
* `readKeys?_renderSorting`: what the text of an order says.
* `ranks_by_best_field`: all of it for every ranked search.
-/

namespace FieldSearch

open Sql (Dialect Fragment Judgement Key KeyExpr Score Writer)
open Text (CaseMap)

/-! ## Scores -/

namespace Sql

/-- What a database sees in a row: how it judges comparisons, and the position of a term in a
column, which is null if the column is. -/
structure Sight where
  judgement : Judgement
  position : Value → String → Option Nat

/-- The database looks at texts in lower case.  A pattern is compared with the whole text of a
column, and the position of a term is the first one, counted from one, or zero. -/
structure Sight.IgnoresCase (sight : Sight) (case : CaseMap) (row : String → Option String) :
    Prop where
  like : ∀ column pattern, sight.judgement.like .postgres column (.text pattern) =
    (row column).map fun text =>
      Text.Like.matchesWith (· == ·) (case.lowered pattern) (case.lowered text)
  position : ∀ column term, sight.position (.text term) column =
    (row column).map fun text => Text.positionIn (case.lowered term) (case.lowered text)

/-- A row of texts as it is seen by a database that does so and knows nothing else of it. -/
def Sight.ofRow (case : CaseMap) (row : String → Option String) : Sight where
  judgement :=
    { like := fun _ column pattern =>
        match pattern with
        | .text pattern => (row column).map fun text =>
            Text.Like.matchesWith (· == ·) (case.lowered pattern) (case.lowered text)
        | _ => none
      words := fun _ _ _ _ => none
      equals := fun _ _ => none
      isNull := fun column => (row column).isNone }
  position term column :=
    match term with
    | .text term => (row column).map fun text =>
        Text.positionIn (case.lowered term) (case.lowered text)
    | _ => none

theorem Sight.ignoresCase_ofRow (case : CaseMap) (row : String → Option String) :
    (Sight.ofRow case row).IgnoresCase case row :=
  ⟨fun _ _ => rfl, fun _ _ => rfl⟩

/-- The value of a score: a flag is one or zero and never null, and a position of zero is null. -/
def Score.value (sight : Sight) : Score → Option Nat
  | .flag comparison => some (if comparison.truth sight.judgement = some true then 1 else 0)
  | .position term column => (sight.position term column).filter (· ≠ 0)

/-- The value of a key that is made of scores.  Nulls are left out of several scores, which come to
null only if nothing else is there. -/
def KeyExpr.rank (sight : Sight) : KeyExpr → Option Nat
  | .column _ => none
  | .score only => only.value sight
  | .greatest scores => (scores.filterMap (Score.value sight)).max?
  | .least scores => (scores.filterMap (Score.value sight)).min?

end Sql

/-! ## Fields -/

/-- The order of pairs of a flag and a position: those with the flag come first, then those with the
earlier position, and those without a position come last. -/
abbrev Standing := ℕᵒᵈ ×ₗ WithTop ℕ

/-- A position as it is compared; where there is none, it comes last. -/
def Standing.placed : Option Nat → WithTop ℕ
  | some place => place
  | none => ⊤

/-- A flag and a position as a pair that is compared. -/
def Standing.of (flag : Nat) (position : Option Nat) : Standing :=
  toLex (OrderDual.toDual flag, placed position)

namespace FieldTerm

variable (case : CaseMap) (row : String → Option String) (pair : FieldTerm)

/-- One if the field begins with its term, and zero if it does not or is null. -/
def beginning : Nat :=
  match row pair.field with
  | some text => if (case.lowered pair.term).isPrefixOf (case.lowered text) then 1 else 0
  | none => 0

/-- The first position of the term in its field, if it occurs there. -/
def place? : Option Nat :=
  (row pair.field).bind fun text =>
    if case.lowered pair.term <:+: case.lowered text then
      some (Text.positionIn (case.lowered pair.term) (case.lowered text))
    else none

/-- The standing of a row in one field. -/
def standing : Standing := .of (pair.beginning case row) (pair.place? case row)

variable {case row pair}

theorem beginning_le_one : pair.beginning case row ≤ 1 := by
  rw [beginning]
  cases row pair.field with
  | none => exact Nat.zero_le 1
  | some text =>
      dsimp only
      split
      · exact Nat.le_refl 1
      · exact Nat.zero_le 1

/-- **A field that begins with its term** has it in the first position. -/
theorem place?_of_beginning (h : pair.beginning case row = 1) : pair.place? case row = some 1 := by
  rw [beginning] at h
  cases hText : row pair.field with
  | none =>
      rw [hText] at h
      cases h
  | some text =>
      rw [hText] at h
      dsimp only at h
      split at h
      · rename_i hPrefix
        rw [List.isPrefixOf_iff_prefix] at hPrefix
        rw [place?, hText, Option.bind_some, if_pos hPrefix.isInfix,
          Text.positionIn_of_prefix hPrefix]
      · cases h

/-- There is no position before the first. -/
theorem one_le_of_place? {place : Nat} (h : pair.place? case row = some place) : 1 ≤ place := by
  rw [place?] at h
  obtain ⟨text, -, h⟩ := Option.bind_eq_some_iff.mp h
  split at h
  · rename_i hOccurs
    obtain rfl := Option.some.inj h
    by_contra hZero
    exact Text.positionIn_eq_zero_iff.mp (by omega) hOccurs
  · cases h

variable {sight : Sql.Sight}

/-- The flag of a field, in SQL, says whether it begins with its term. -/
theorem value_flag (hSight : sight.IgnoresCase case row) (pair : FieldTerm) :
    (pair.flag .postgres).value sight = some (pair.beginning case row) := by
  have hTruth : (pair.comparison .postgres).truth sight.judgement =
      (row pair.field).map fun text => Text.Like.matchesWith (· == ·)
        (case.lowered (Text.Like.beginningWith pair.term)) (case.lowered text) :=
    hSight.like _ _
  rw [flag, Sql.Score.value, hTruth, beginning]
  cases row pair.field with
  | none => rfl
  | some text =>
      simp only [Option.map_some, Option.some.injEq, case.matchesWith_beginningWith,
        List.isPrefixOf_iff_prefix]

/-- The position of a field, in SQL, is the first one of its term. -/
theorem value_position (hSight : sight.IgnoresCase case row) (pair : FieldTerm) :
    pair.position.value sight = pair.place? case row := by
  rw [position, Sql.Score.value, hSight.position, place?]
  cases row pair.field with
  | none => rfl
  | some text =>
      rw [Option.map_some, Option.bind_some]
      by_cases hOccurs : case.lowered pair.term <:+: case.lowered text
      · have hFound : Text.positionIn (case.lowered pair.term) (case.lowered text) ≠ 0 :=
          fun hZero => Text.positionIn_eq_zero_iff.mp hZero hOccurs
        rw [if_pos hOccurs, Option.filter_some_pos (by simpa using hFound)]
      · rw [if_neg hOccurs, Text.positionIn_eq_zero_iff.mpr hOccurs]
        rfl

end FieldTerm

/-! ## The best of several fields -/

section

variable {case : CaseMap} {row : String → Option String} {sight : Sql.Sight}
  {pairs : List FieldTerm}

/-- A single score stands alone, and is what the function would make of it. -/
theorem Sql.KeyExpr.rank_folded {make : List Score → KeyExpr} {best : List Nat → Option Nat}
    (hMake : ∀ scores, (make scores).rank sight = best (scores.filterMap (Score.value sight)))
    (hNone : best [] = none) (hOne : ∀ value, best [value] = some value) (scores : List Score) :
    (KeyExpr.folded make scores).rank sight = best (scores.filterMap (Score.value sight)) := by
  match scores with
  | [] => exact hMake []
  | [only] =>
      show only.value sight = _
      rw [List.filterMap_cons, List.filterMap_nil]
      cases only.value sight with
      | none => exact hNone.symm
      | some value => exact (hOne value).symm
  | first :: second :: rest => exact hMake (first :: second :: rest)

/-- The greatest flag is the flag of one of the fields. -/
theorem exists_rank_exactPrefix (hSight : sight.IgnoresCase case row) (hPairs : pairs ≠ []) :
    ∃ flag, ((RankExpr.exactPrefix pairs).toKeyExpr .postgres).rank sight = some flag ∧
      (∃ pair ∈ pairs, pair.beginning case row = flag) ∧
      ∀ pair ∈ pairs, pair.beginning case row ≤ flag := by
  have hFlags : ((RankExpr.exactPrefix pairs).toKeyExpr .postgres).rank sight =
      (pairs.map (FieldTerm.beginning case row)).max? := by
    rw [RankExpr.toKeyExpr, @KeyExpr.rank_folded sight .greatest List.max? (fun _ => rfl) rfl
      fun _ => rfl, List.filterMap_map]
    congr 1
    rw [← List.filterMap_eq_map]
    exact congrFun (congrArg _ (funext (FieldTerm.value_flag hSight))) pairs
  cases hFlag : (pairs.map (FieldTerm.beginning case row)).max? with
  | none =>
      rw [List.max?_eq_none_iff, List.map_eq_nil_iff] at hFlag
      exact absurd hFlag hPairs
  | some flag =>
      obtain ⟨hMem, hGreatest⟩ := List.max?_eq_some_iff.mp hFlag
      exact ⟨flag, hFlags.trans hFlag, List.mem_map.mp hMem,
        fun pair hPair => hGreatest _ (List.mem_map_of_mem hPair)⟩

/-- The least position is the position of one of the fields. -/
theorem exists_rank_matchPosition (hSight : sight.IgnoresCase case row) (hPairs : pairs ≠ []) :
    (∃ pair ∈ pairs, pair.place? case row =
        ((RankExpr.matchPosition pairs).toKeyExpr .postgres).rank sight) ∧
      ∀ pair ∈ pairs,
        Standing.placed (((RankExpr.matchPosition pairs).toKeyExpr .postgres).rank sight) ≤
          Standing.placed (pair.place? case row) := by
  have hPlaces : ((RankExpr.matchPosition pairs).toKeyExpr .postgres).rank sight =
      (pairs.filterMap (FieldTerm.place? case row)).min? := by
    rw [RankExpr.toKeyExpr, @KeyExpr.rank_folded sight .least List.min? (fun _ => rfl) rfl
      fun _ => rfl, List.filterMap_map]
    exact congrArg List.min?
      (congrFun (congrArg _ (funext (FieldTerm.value_position hSight))) pairs)
  rw [hPlaces]
  cases hPlace : (pairs.filterMap (FieldTerm.place? case row)).min? with
  | none =>
      rw [List.min?_eq_none_iff, List.filterMap_eq_nil_iff] at hPlace
      obtain ⟨pair, hPair⟩ := List.exists_mem_of_ne_nil pairs hPairs
      refine ⟨⟨pair, hPair, hPlace pair hPair⟩, fun other hOther => ?_⟩
      rw [hPlace other hOther]
  | some place =>
      obtain ⟨hMem, hLeast⟩ := List.min?_eq_some_iff.mp hPlace
      refine ⟨List.mem_filterMap.mp hMem, fun other hOther => ?_⟩
      cases hFound : other.place? case row with
      | none => exact le_top
      | some found =>
          exact WithTop.coe_le_coe.mpr (hLeast found (List.mem_filterMap.mpr ⟨other, hOther, hFound⟩))

/-- **The two numbers are those of the best field.** -/
theorem isLeast_standing (hSight : sight.IgnoresCase case row) (hPairs : pairs ≠ []) :
    ∃ flag, ((RankExpr.exactPrefix pairs).toKeyExpr .postgres).rank sight = some flag ∧
      IsLeast {standing | ∃ pair ∈ pairs, pair.standing case row = standing}
        (.of flag (((RankExpr.matchPosition pairs).toKeyExpr .postgres).rank sight)) := by
  obtain ⟨flag, hFlag, ⟨first, hFirst, hFirstFlag⟩, hGreatest⟩ :=
    exists_rank_exactPrefix hSight hPairs
  obtain ⟨⟨second, hSecond, hSecondPlace⟩, hLeast⟩ := exists_rank_matchPosition hSight hPairs
  refine ⟨flag, hFlag, ?_, ?_⟩
  · by_cases hBegins : flag = 1
    · -- The field with the flag is best: no position is before its own.
      have hFirstPlace : first.place? case row = some 1 :=
        FieldTerm.place?_of_beginning (hFirstFlag.trans hBegins)
      have hBefore := hLeast first hFirst
      rw [← hSecondPlace, hFirstPlace] at hBefore
      have hOne : second.place? case row = some 1 := by
        cases hPlace : second.place? case row with
        | none =>
            rw [hPlace] at hBefore
            exact absurd (top_le_iff.mp hBefore) (WithTop.coe_ne_top)
        | some place =>
            rw [hPlace] at hBefore
            have hAtMost : place ≤ 1 := WithTop.coe_le_coe.mp hBefore
            have hAtLeast := FieldTerm.one_le_of_place? hPlace
            rw [Nat.le_antisymm hAtMost hAtLeast]
      refine ⟨first, hFirst, ?_⟩
      rw [FieldTerm.standing, hFirstFlag, hFirstPlace, ← hSecondPlace, hOne]
    · -- Without a flag all fields are alike in it, and the position decides.
      have hNone : ∀ pair ∈ pairs, pair.beginning case row = flag := by
        intro pair hPair
        have hBound : first.beginning case row ≤ 1 := FieldTerm.beginning_le_one
        have hAtMost := hGreatest pair hPair
        omega
      refine ⟨second, hSecond, ?_⟩
      rw [FieldTerm.standing, hNone second hSecond, hSecondPlace]
  · rintro _ ⟨pair, hPair, rfl⟩
    rw [Standing.of, FieldTerm.standing, Standing.of, Prod.Lex.toLex_le_toLex]
    rcases (hGreatest pair hPair).lt_or_eq with hLess | hSame
    · exact .inl (OrderDual.toDual_lt_toDual.mpr hLess)
    · exact .inr ⟨congrArg OrderDual.toDual hSame.symm, hLeast pair hPair⟩

end

/-! ## Orders as they are written -/

namespace Sql

/-- The keys of an order that is written by itself, each parameter in the place of its
placeholder. -/
def Fragment.readKeys? (dialect : Dialect) (fragment : Fragment) : Option (List Key) :=
  (resolve fragment.params (lex dialect.mark fragment.sql.toList)).bind fun tokens =>
    match readList? readKey? tokens with
    | some (keys, []) => some keys
    | _ => none

/-- **What the text of an order says**: its keys, one after another. -/
theorem readKeys?_renderSorting {writer : Writer} {sorting : Sorting} {fragment : Fragment}
    (hKeys : sorting.keys ≠ []) (hWritable : ∀ key ∈ sorting.keys, key.expr.Writable)
    (h : (renderSorting writer.dialect sorting).render writer = .ok fragment) :
    fragment.readKeys? writer.dialect =
      some (sorting.keys.map (SortKey.toKey writer.dialect)) := by
  cases hRendering : renderSorting writer.dialect sorting with
  | refused before fault =>
      rw [hRendering] at h
      cases h
  | done template =>
      rw [hRendering] at h
      obtain rfl : writer.render template = fragment := Except.ok.inj h
      have hResolved := Template.resolve_render (separated_renderSorting hRendering)
      obtain ⟨templates, hParts, rfl⟩ := renderSorting_eq_done hRendering
      have hEach : List.Forall₂ (fun key part => ∀ rest, Ends "NULLS" rest →
          readKey? (Template.tokens writer.dialect part ++ rest) =
            some (key.toKey writer.dialect, rest)) sorting.keys templates := by
        exact forall₂_imp_of_mem hParts fun key hMem part _ hPart rest hEnds =>
          readKey?_renderKey (hWritable key hMem) hPart hEnds
      have hEnds : Ends "NULLS" [] := fun next hNext => by cases hNext
      have hList := readList?_joined hEach hKeys (by simp [Ends]) hEnds (by simp)
      rw [List.append_nil] at hList
      rw [Fragment.readKeys?, hResolved, Option.bind_some, hList]

end Sql

namespace Sorting

/-- A field takes part in a ranking with a term: it was declared, and the term that is given for it
has a word. -/
structure Ranks (fields : FieldSet) (terms : TermSet) (pair : FieldTerm) : Prop where
  declared : pair.field ∈ fields.fields
  given : terms.Gives pair.field pair.term
  worded : Text.words pair.term ≠ []

theorem mem_ranked_iff {fields : FieldSet} {terms : TermSet} {pair : FieldTerm} :
    pair ∈ ranked fields terms ↔ Ranks fields terms pair := by
  rw [ranked, List.mem_filterMap]
  constructor
  · rintro ⟨field, hField, hPair⟩
    cases hTerm : terms.term? field with
    | none =>
        rw [hTerm] at hPair
        cases hPair
    | some term =>
        rw [hTerm] at hPair
        dsimp only at hPair
        split at hPair
        · cases hPair
        · rename_i hWords
          obtain rfl := Option.some.inj hPair
          exact ⟨hField, TermSet.term?_eq_some_iff.mp hTerm, by simpa using hWords⟩
  · rintro ⟨hField, hGiven, hWords⟩
    refine ⟨pair.field, hField, ?_⟩
    rw [TermSet.term?_eq_some_iff.mpr hGiven]
    dsimp only
    rw [if_neg (by simpa using hWords)]

theorem forTerms_eq_some {fields : FieldSet} {terms : TermSet} {primaryKey : String}
    {sorting : Sorting} (h : forTerms fields terms primaryKey = .ok (some sorting)) :
    ranked fields terms ≠ [] ∧ sorting = ranking (ranked fields terms) primaryKey :=
  ofRanked_eq_some_iff.mp (forTerms_eq_ok h).symm

/-- **A ranking sorts by the best field of each row.**  The text of a ranked search, where it is
written with full text search, has two keys before the primary key, one from high to low and one
from low to high with nulls at the end.  In each field that takes part, the flag says whether the
field begins with its term and the position is the first one, which it is if the flag is set.  The
two keys are the best pair of flag and position among these fields; a field that is alone keeps its
own. -/
theorem ranks_by_best_field {fields : FieldSet} {terms : TermSet} {primaryKey : String}
    {sorting : Sorting} (hSorting : forTerms fields terms primaryKey = .ok (some sorting))
    {writer : Writer} (hDialect : writer.dialect = .postgres) {case : CaseMap}
    {row : String → Option String} {sight : Sql.Sight} (hSight : sight.IgnoresCase case row) :
    ∃ fragment best earliest, (Sql.renderSorting writer.dialect sorting).render writer =
        .ok fragment ∧
      fragment.readKeys? writer.dialect = some [⟨best, .descending, false⟩,
        ⟨earliest, .ascending, true⟩, ⟨.column primaryKey, .ascending, false⟩] ∧
      (∀ pair, Ranks fields terms pair →
        (pair.flag writer.dialect).value sight = some (pair.beginning case row) ∧
        pair.position.value sight = pair.place? case row ∧
        (pair.beginning case row = 1 → pair.place? case row = some 1)) ∧
      (∃ flag, best.rank sight = some flag ∧
        IsLeast {standing | ∃ pair, Ranks fields terms pair ∧ pair.standing case row = standing}
          (.of flag (earliest.rank sight))) ∧
      ∀ pair, ranked fields terms = [pair] →
        best = .score (pair.flag writer.dialect) ∧ earliest = .score pair.position := by
  obtain ⟨hPairs, rfl⟩ := forTerms_eq_some hSorting
  rw [hDialect]
  have hExpressible : (ranking (ranked fields terms) primaryKey).Expressible .postgres := by
    intro key hKey
    rcases key with ⟨expr, direction, nullsLast⟩
    cases expr <;> trivial
  obtain ⟨fragment, hRendered⟩ := (@Sql.Rendering.exists_render_iff writer _).mpr
    (Sql.isDone_renderSorting_iff.mpr hExpressible)
  have hWritable : ∀ key ∈ (ranking (ranked fields terms) primaryKey).keys, key.expr.Writable :=
    List.forall_mem_cons.mpr ⟨hPairs, List.forall_mem_cons.mpr ⟨hPairs,
      List.forall_mem_singleton.mpr trivial⟩⟩
  have hRead := @Sql.readKeys?_renderSorting writer _ fragment (List.cons_ne_nil _ _) hWritable
    (by rw [hDialect]; exact hRendered)
  rw [hDialect] at hRead
  refine ⟨fragment, _, _, hRendered, hRead, fun pair _ => ?_, ?_, fun pair hOnly => ?_⟩
  · exact ⟨FieldTerm.value_flag hSight pair, FieldTerm.value_position hSight pair,
      FieldTerm.place?_of_beginning⟩
  · simp only [← mem_ranked_iff]
    exact isLeast_standing hSight hPairs
  · rw [hOnly]
    exact ⟨rfl, rfl⟩

/-- An underscore stands for itself only, so a name with a blank in its place has no flag, and the
best field is the motto, in which the term comes fourth; the alias is null. -/
theorem ranks_by_best_field_of_underscore :
    let fields : FieldSet := ⟨"Hero", ["name", "alias", "motto"]⟩
    let terms : TermSet :=
      .ofList [("name", some "100%_b"), ("alias", some "x\\"), ("motto", some "BAT")]
    let row : String → Option String := fun column =>
      if column = "name" then some "100% bats" else
        if column = "motto" then some "My bat" else none
    let sight := Sql.Sight.ofRow .single row
    let writer : Writer := { dialect := .postgres }
    sight.IgnoresCase .single row ∧
    (FieldTerm.flag .postgres ⟨"name", "100%_b"⟩).value sight = some 0 ∧
    (FieldTerm.position ⟨"motto", "BAT"⟩).value sight = some 4 ∧
    ∃ sorting, forTerms fields terms "id" = .ok (some sorting) ∧
      ∃ fragment best earliest, (Sql.renderSorting .postgres sorting).render writer =
          .ok fragment ∧
        fragment.readKeys? .postgres = some [⟨best, .descending, false⟩,
          ⟨earliest, .ascending, true⟩, ⟨.column "id", .ascending, false⟩] ∧
        ∃ flag, best.rank sight = some flag ∧
          Standing.of flag (earliest.rank sight) = .of 0 (some 4) := by
  intro fields terms row sight writer
  have hSight : sight.IgnoresCase .single row := Sql.Sight.ignoresCase_ofRow .single row
  obtain ⟨sorting, hSorting⟩ : ∃ sorting, forTerms fields terms "id" = .ok (some sorting) :=
    ⟨_, rfl⟩
  obtain ⟨fragment, best, earliest, hRendered, hRead, hEach, ⟨flag, hFlag, hBest⟩, -⟩ :=
    @ranks_by_best_field _ _ _ _ hSorting writer rfl _ _ _ hSight
  have hName : Ranks fields terms ⟨"name", "100%_b"⟩ := mem_ranked_iff.mp (by decide)
  have hMotto : Ranks fields terms ⟨"motto", "BAT"⟩ := mem_ranked_iff.mp (by decide)
  refine ⟨hSight, (hEach _ hName).1.trans ?_, (hEach _ hMotto).2.1.trans ?_, sorting, hSorting,
    fragment, best, earliest, hRendered, hRead, flag, hFlag, hBest.unique ?_⟩
  · decide
  · decide
  · refine ⟨⟨_, hMotto, by decide⟩, ?_⟩
    rintro _ ⟨pair, hPair, rfl⟩
    have hAll : ∀ other ∈ ranked fields terms,
        Standing.of 0 (some 4) ≤ other.standing .single row := by decide
    exact hAll pair (mem_ranked_iff.mpr hPair)

end Sorting
end FieldSearch
