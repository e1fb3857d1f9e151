import FieldSearch.Proofs.Database.Equivalence
import FieldSearch.Proofs.Query.Verbatim
import FieldSearch.Proofs.Search.Sought
import Mathlib

/-!
# Searches by containment

A term that is looked for as it stands is put into a pattern, and the pattern and the text
are put into lower case before the one is matched with the other.  The pattern in lower
case is the pattern of the term in lower case, so a text matches if it contains the term,
both in lower case.  How the term was written is of no matter then: terms that have the
same lower case select the same rows, whatever else is asked for.

Matching reads two noncharacters as the replacement character.  Lower-casing neither
writes nor removes them, so this can be seen only where the term or the text has one.

## Main results

* `lowercase_containing`: the pattern of a term, in lower case.
* `matchesWith_lowercase`, `evalClause_text`: the texts that match, for a comparison up to
  the case of ASCII letters and for that of a database.
* `select_congr_ignoringCase`: terms with the same lower case select the same rows.
* `finds_by_containment`: all of it.
-/

namespace FieldSearch

open Database (Cell Row Table Values Alike evalClause evalPredicate)

/-! ## Noncharacters -/

namespace Text

/-- No small letter of the run is one of the two noncharacters. -/
def CaseRun.Legible (run : CaseRun) : Prop :=
  run.last + run.offset < 0xfffe ∨ 0xffff < run.first + run.offset

instance (run : CaseRun) : Decidable run.Legible := by
  unfold CaseRun.Legible
  infer_instance

theorem legible_of_mem_lowerRuns : ∀ run ∈ lowerRuns, run.Legible := by decide +kernel

/-- Matching reads every character of the text as that character. -/
def Legible (text : String) : Prop := ∀ c ∈ text.toList, Cell.readChar c = c

theorem readChar_eq_self_iff {c : Char} :
    Cell.readChar c = c ↔ c.toNat < 0xfffe ∨ 0xffff < c.toNat := by
  have hNotCharacter : (c = '\ufffe' ∨ c = '\uffff') ↔ 0xfffe ≤ c.toNat ∧ c.toNat ≤ 0xffff := by
    rw [← Char.toNat_inj, ← Char.toNat_inj]
    simp only [Char.reduceToNat]
    omega
  rw [Cell.readChar]
  split
  next h =>
    rw [hNotCharacter] at h
    refine iff_of_false (fun hEq => ?_) (by omega)
    rw [← hEq] at h
    simp at h
  next h =>
    rw [hNotCharacter] at h
    exact iff_of_true rfl (by omega)

/-- The lower case of a character of a run lies between those of its ends. -/
theorem toNat_lowerChar_mem {c : Char} {run : CaseRun}
    (h : findRun lowerRuns c.toNat = some run) :
    run.first + run.offset ≤ (lowerChar c).toNat ∧
      (lowerChar c).toNat ≤ run.last + run.offset := by
  obtain ⟨hFirst, hLast, hLower⟩ := toNat_lowerChar_of_findRun h
  omega

/-- Lower-casing does not turn a character into a noncharacter. -/
theorem readChar_lowerChar {c : Char} (h : Cell.readChar c = c) :
    Cell.readChar (lowerChar c) = lowerChar c := by
  cases hRun : findRun lowerRuns c.toNat with
  | none =>
      rw [lowerChar, hRun]
      exact h
  | some run =>
      obtain ⟨hFirst, hLast⟩ := toNat_lowerChar_mem hRun
      have hLegible := legible_of_mem_lowerRuns run (mem_of_findRun hRun).1
      rw [CaseRun.Legible] at hLegible
      rw [readChar_eq_self_iff]
      omega

theorem readChar_of_mem_lowerFrom {before : Bool} {text : List Char}
    (h : ∀ c ∈ text, Cell.readChar c = c) {d : Char} (hd : d ∈ lowerFrom before text) :
    Cell.readChar d = d := by
  obtain ⟨_, c, hMem, _, hAt⟩ := exists_of_mem_lowerFrom hd
  unfold lowerAt at hAt
  split at hAt
  · obtain rfl := List.mem_singleton.mp hAt
    split <;> rfl
  · split at hAt
    · rcases List.mem_pair.mp hAt with rfl | rfl <;> rfl
    · obtain rfl := List.mem_singleton.mp hAt
      exact readChar_lowerChar (h c hMem)

theorem Legible.map_readChar {text : String} (h : Legible text) :
    (lowercase text).toList.map Cell.readChar = (lowercase text).toList := by
  rw [toList_lowercase]
  exact (List.map_congr_left fun d hd => readChar_of_mem_lowerFrom h hd).trans (List.map_id _)

end Text

/-- **Where there are no noncharacters**, a term occurs in a text if the text contains it, both in
lower case. -/
theorem Database.Cell.occurs_iff_of_legible {term text : String} (hTerm : Text.Legible term)
    (hText : Text.Legible text) :
    Cell.Occurs term text ↔ (Text.lowercase term).toList <:+: (Text.lowercase text).toList := by
  rw [Cell.Occurs, hTerm.map_readChar, hText.map_readChar]

/-! ## Patterns in lower case -/

namespace Text.Like

/-- **The pattern of a term, in lower case**, is the pattern of the term in lower case. -/
theorem lowercase_containing (term : String) :
    lowercase ("%" ++ escape term ++ "%") = "%" ++ escape (lowercase term) ++ "%" := by
  refine String.toList_inj.mp ?_
  have hPattern := toList_lowercase_containing term
  rw [containing] at hPattern
  rw [hPattern]
  simp [escape]

/-- **A text matches the pattern of a term if it contains the term**, both in lower case, where
characters are compared up to the case of ASCII letters. -/
theorem matchesWith_lowercase (term text : String) :
    matchesWith (fun c d => foldAscii c == foldAscii d) (lowercase (containing term)).toList
        (lowercase text).toList = true ↔
      (lowercase term).toList <:+: (lowercase text).toList := by
  have hSame : ∀ c ∈ lowerFrom false term.toList, ∀ d ∈ lowerFrom false text.toList,
      (foldAscii c == foldAscii d) = true ↔ id c = id d := by
    intro c hc d hd
    rw [beq_iff_eq, foldAscii_of_mem_lowerFrom hc, foldAscii_of_mem_lowerFrom hd]
    rfl
  rw [matchesWith, tokens_lowercase_containing, toList_lowercase, toList_lowercase]
  dsimp only
  rw [admits_containing hSame, List.map_id, List.map_id]

end Text.Like

/-! ## Clauses -/

theorem evalClause_text {values : Values} {field term text : String} (hTerm : Text.NulFree term)
    (hText : Text.NulFree text) (hShort : (Clause.contains field term).Short)
    (hValue : values field = .text text) :
    ∃ found, evalClause values (.contains field term) = .ok (some found) ∧
      (found = true ↔ Cell.Occurs term text) ∧
      (Text.Legible term → Text.Legible text →
        (found = true ↔ (Text.lowercase term).toList <:+: (Text.lowercase text).toList)) := by
  obtain ⟨found, hEval, hFound⟩ := evalClause_contains hTerm hText hShort hValue
  exact ⟨found, hEval, hFound, fun hLegible hOther =>
    hFound.trans (Cell.occurs_iff_of_legible hLegible hOther)⟩

/-- A field without a value has no truth value, whatever it is matched with. -/
theorem evalClause_null {values : Values} {field term : String} (hValue : values field = .null)
    {truth : Option Bool} (h : evalClause values (.contains field term) = .ok truth) :
    truth = none := by
  have hMatch : Cell.null.matchesPattern? (Text.Like.containing term) = some none :=
    Cell.matchesPattern?_of_short .null (short_of_evalClause h)
  rw [evalClause, hValue, hMatch] at h
  exact (Except.ok.inj h).symm

/-- **What a clause says of a record depends on its term in lower case only.** -/
theorem evalClause_congr {left right : String} (hSame : Text.lowercase left = Text.lowercase right)
    (values : Values) (field : String) :
    evalClause values (.contains field left) = evalClause values (.contains field right) := by
  have hPattern : Text.lowercase (Text.Like.containing left) =
      Text.lowercase (Text.Like.containing right) := by
    rw [Text.Like.containing, Text.Like.containing, Text.Like.lowercase_containing,
      Text.Like.lowercase_containing, hSame]
  rw [evalClause, evalClause, Cell.matchesPattern?, Cell.matchesPattern?, hPattern]

/-! ## Terms with the same lower case -/

/-- Two clauses on one field whose terms have the same lower case. -/
inductive Clause.SameIgnoringCase : Clause → Clause → Prop where
  | contains (field : String) {left right : String}
      (same : Text.lowercase left = Text.lowercase right) :
      SameIgnoringCase (.contains field left) (.contains field right)

/-- The same fields are searched, with terms that have the same lower case. -/
def TermSet.SameIgnoringCase (left right : TermSet) : Prop :=
  ∀ field, (left.term? field).map Text.lowercase = (right.term? field).map Text.lowercase

theorem TermSet.SameIgnoringCase.hasTerms_eq {left right : TermSet}
    (h : left.SameIgnoringCase right) : left.hasTerms = right.hasTerms := by
  have hSome : ∀ set : TermSet, set.hasTerms = true ↔
      ∃ field, ((set.term? field).map Text.lowercase).isSome = true := by
    intro set
    simp only [TermSet.hasTerms_iff_exists_gives, ← TermSet.term?_eq_some_iff, Option.isSome_map,
      Option.isSome_iff_exists]
  rw [Bool.eq_iff_iff, hSome, hSome]
  simp only [h _]

/-- Searches for such terms have such clauses. -/
theorem Predicate.containing_sameIgnoringCase {left right : TermSet}
    (h : left.SameIgnoringCase right) (fields : FieldSet) :
    List.Forall₂ Clause.SameIgnoringCase (containing fields left) (containing fields right) := by
  rw [containing, containing]
  induction fields.fields with
  | nil => exact .nil
  | cons field rest ih =>
      have hField := h field
      cases hLeft : left.term? field with
      | none =>
          rw [hLeft] at hField
          have hRight := Option.map_eq_none_iff.mp hField.symm
          rw [List.filterMap_cons, List.filterMap_cons, hLeft, hRight]
          exact ih
      | some term =>
          rw [hLeft] at hField
          obtain ⟨other, hRight, hSame⟩ := Option.map_eq_some_iff.mp hField.symm
          rw [List.filterMap_cons, List.filterMap_cons, hLeft, hRight]
          exact .cons (.contains field hSame.symm) ih

namespace Predicate

variable {lefts rights : List Clause}

theorem field_eq_of_sameIgnoringCase (h : List.Forall₂ Clause.SameIgnoringCase lefts rights) :
    lefts.map Clause.field = rights.map Clause.field := by
  induction h with
  | nil => rfl
  | cons hFirst _ ih =>
      cases hFirst with
      | contains field same => rw [List.map_cons, List.map_cons, ih, Clause.field, Clause.field]

theorem evalAlternatives_congr (h : List.Forall₂ Clause.SameIgnoringCase lefts rights)
    (values : Values) :
    Database.evalAlternatives values (lefts.map .single) =
      Database.evalAlternatives values (rights.map .single) := by
  induction h with
  | nil => rfl
  | cons hFirst _ ih =>
      cases hFirst with
      | contains field same =>
          rw [List.map_cons, List.map_cons, Database.evalAlternatives, Database.evalAlternatives,
            evalPredicate, evalPredicate, evalClause_congr same values field, ih]

/-- Choices among such clauses are true alike. -/
theorem evalPredicate_anyOf_congr (h : List.Forall₂ Clause.SameIgnoringCase lefts rights)
    (values : Values) :
    evalPredicate values (anyOf (lefts.map .single)) =
      evalPredicate values (anyOf (rights.map .single)) := by
  rw [anyOf_map_single, anyOf_map_single]
  cases h with
  | nil => rfl
  | cons hFirst hRest =>
      cases hRest with
      | nil =>
          cases hFirst with
          | contains field same => exact evalClause_congr same values field
      | cons hSecond hRest =>
          exact evalAlternatives_congr (.cons hFirst (.cons hSecond hRest)) values

/-- **Choices among such clauses cannot be told apart.** -/
theorem alike_anyOf (h : List.Forall₂ Clause.SameIgnoringCase lefts rights) :
    Alike (.search (anyOf (lefts.map .single))) (.search (anyOf (rights.map .single))) := by
  refine Database.alike_search (evalPredicate_anyOf_congr h) ?_
  rw [clauses_anyOf_map_single, clauses_anyOf_map_single]
  exact field_eq_of_sameIgnoringCase h

end Predicate

/-- **Terms with the same lower case select the same rows** of every table, and in the same order,
whatever else is asked for. -/
theorem Database.Table.select_congr_ignoringCase {compiler : Compiler} {schema : Schema}
    (hStrategy : compiler.strategy = .generic) {left right : TermSet}
    (hSame : left.SameIgnoringCase right) {one other : CompiledSearch}
    (hOne : compiler.compileTerms schema left = .ok one)
    (hOther : compiler.compileTerms schema right = .ok other) (table : Table) (select : Select) :
    table.select (Resolver.withSearch select one) =
      table.select (Resolver.withSearch select other) := by
  have hLeft := Compiler.compileTerms_eq_ok hOne
  have hRight := Compiler.compileTerms_eq_ok hOther
  have hUnsorted : one.sorting = none ∧ other.sorting = none := by
    rw [hLeft.sorting, hRight.sorting, hStrategy]
    exact ⟨rfl, rfl⟩
  have hPredicates := And.intro hLeft.predicate hRight.predicate
  rw [hStrategy, Predicate.searched_generic, Predicate.searched_generic,
    hSame.hasTerms_eq] at hPredicates
  rw [Resolver.withSearch, Resolver.withSearch, hUnsorted.1, hUnsorted.2, hPredicates.1,
    hPredicates.2]
  cases right.hasTerms with
  | false => rfl
  | true =>
      dsimp only
      rw [if_pos rfl, if_pos rfl, Predicate.isAlways_anyOf_map_single,
        Predicate.isAlways_anyOf_map_single, if_neg Bool.false_ne_true, if_neg Bool.false_ne_true]
      have hFilter := Predicate.alike_anyOf
        (Predicate.containing_sameIgnoringCase hSame schema.searchable)
      exact table.select_congr (List.rel_append (List.forall₂_same.mpr fun filter _ => .refl filter)
        (.cons hFilter .nil)) select

/-- **A search for a term as it stands finds what contains it, regardless of case.**  Escaping and
lower-casing do not get into each other's way.  Where characters are compared up to the case of
ASCII letters, a text matches the pattern of a term, both in lower case, exactly if it contains the
term, both in lower case.  A database compares them so but for two noncharacters, which it reads as
the replacement character; it takes no pattern that is too long, and a field without a value never
matches.  Terms with the same lower case select the same rows of every table. -/
theorem finds_by_containment :
    (∀ term, Text.lowercase ("%" ++ Text.Like.escape term ++ "%") =
      "%" ++ Text.Like.escape (Text.lowercase term) ++ "%") ∧
    (∀ term text, Text.Like.matchesWith (fun c d => Text.foldAscii c == Text.foldAscii d)
        (Text.lowercase (Text.Like.containing term)).toList (Text.lowercase text).toList = true ↔
      (Text.lowercase term).toList <:+: (Text.lowercase text).toList) ∧
    (∀ field term text values, Text.NulFree term → Text.NulFree text →
      (Clause.contains field term).Short → values field = .text text →
      ∃ found, evalClause values (.contains field term) = .ok (some found) ∧
        (found = true ↔ Cell.Occurs term text) ∧
        (Text.Legible term → Text.Legible text →
          (found = true ↔ (Text.lowercase term).toList <:+: (Text.lowercase text).toList))) ∧
    (∀ field term values truth, values field = .null →
      evalClause values (.contains field term) = .ok truth → truth = none) ∧
    ∀ compiler : Compiler, compiler.strategy = .generic → ∀ schema left right,
      TermSet.SameIgnoringCase left right → ∀ one other,
        compiler.compileTerms schema left = .ok one →
        compiler.compileTerms schema right = .ok other → ∀ (table : Table) select,
          table.select (Resolver.withSearch select one) =
            table.select (Resolver.withSearch select other) := by
  refine ⟨Text.Like.lowercase_containing, Text.Like.matchesWith_lowercase, ?_, ?_, ?_⟩
  · intro field term text values hTerm hText hShort hValue
    exact evalClause_text hTerm hText hShort hValue
  · intro field term values truth hValue hEval
    exact evalClause_null hValue hEval
  · intro compiler hStrategy schema left right hSame one other hOne hOther table select
    exact table.select_congr_ignoringCase hStrategy hSame hOne hOther select

/-- A term with wildcards in it is found as it stands, one with a wildcard in place of a character is
not, and a word in capital letters finds what it finds in small ones, final sigma included. -/
theorem finds_by_containment_of_street :
    let values : Values := fun name => if name = "name" then .text "ΟΔΟΣ 100%_A" else .null
    let capital : TermSet := .ofList [("name", some "ΟΔΟΣ")]
    let small : TermSet := .ofList [("name", some "οδος")]
    let compiler : Compiler := ⟨.generic, .sqlite, none⟩
    evalClause values (.contains "name" "0%_a") = .ok (some true) ∧
      evalClause values (.contains "name" "1_0") = .ok (some false) ∧
      evalClause values (.contains "alias" "0") ≠ .ok (some true) ∧
      ∃ one other, compiler.compileTerms .heroes capital = .ok one ∧
        compiler.compileTerms .heroes small = .ok other ∧
        ∀ (table : Table) select, table.select (Resolver.withSearch select one) =
          table.select (Resolver.withSearch select other) := by
  intro values capital small compiler
  obtain ⟨-, -, hText, hNull, hTables⟩ := finds_by_containment
  have hName : values "name" = .text "ΟΔΟΣ 100%_A" := rfl
  have hFree : Text.NulFree "ΟΔΟΣ 100%_A" := by simp [Text.NulFree]
  have hLegible : Text.Legible "ΟΔΟΣ 100%_A" := by simp [Text.Legible, Cell.readChar]
  have hSame : capital.SameIgnoringCase small := by
    intro field
    by_cases hField : field = "name"
    · rw [hField]
      decide +kernel
    · have hNone : ∀ term, (TermSet.ofList [("name", term)]).term? field = none :=
        fun term => TermSet.term?_insert_of_ne .empty term hField
      rw [hNone, hNone]
  refine ⟨?_, ?_, fun h => ?_, _, _, rfl, rfl, ?_⟩
  · obtain ⟨found, hEval, -, hFound⟩ := hText "name" "0%_a" _ values (by simp [Text.NulFree]) hFree
      (by unfold Clause.Short; decide +kernel) hName
    have hTerm : Text.Legible "0%_a" := by simp [Text.Legible, Cell.readChar]
    rw [hEval, (hFound hTerm hLegible).mpr (by decide +kernel)]
  · obtain ⟨found, hEval, -, hFound⟩ := hText "name" "1_0" _ values (by simp [Text.NulFree]) hFree
      (by unfold Clause.Short; decide +kernel) hName
    have hTerm : Text.Legible "1_0" := by simp [Text.Legible, Cell.readChar]
    have hMissed : found = false :=
      Bool.eq_false_iff.mpr (mt (hFound hTerm hLegible).mp (by decide +kernel))
    rw [hEval, hMissed]
  · cases hNull "alias" "0" values _ rfl h
  · exact hTables compiler rfl .heroes capital small hSame _ _ rfl rfl

end FieldSearch
