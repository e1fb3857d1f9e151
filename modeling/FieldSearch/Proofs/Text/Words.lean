import FieldSearch.Text.Words
import Mathlib

/-!
# Texts made of words

A text has some words in it, and something that belongs to no word before, between and
behind them.  `MadeOf` says so without cutting the text: it names the words and leaves the
gaps open, except that there has to be one between two words.  That is enough to
determine the words, and they are the ones into which the text is cut.

A prefix query is a text made of words too, so its words can be read back from it.  What
stands in its gaps is the same for all words, and no character of a searched text gets
there.

## Main results

* `madeOf_iff`: the words of a text are the only ones that it is made of.
* `madeOf_prefixQuery`, `mem_prefixQueries`: what a prefix query is made of.
* `query_asks_for_words`: all of it for every text and for all words.
-/

namespace FieldSearch.Text

open Computability

/-- Some characters, all of them alphanumeric. -/
def IsWord (word : String) : Prop := word ≠ "" ∧ ∀ c ∈ word.toList, isAlphanumeric c = true

/-- Characters that belong to no word, or no character at all. -/
def IsGap (gap : List Char) : Prop := ∀ c ∈ gap, isAlphanumeric c = false

/-- What stands behind a word: a gap, or a gap that keeps the next word apart, this word, and what
stands behind it in turn. -/
inductive Continues : List String → List Char → Prop where
  | done {gap : List Char} (blank : IsGap gap) : Continues [] gap
  | next {gap rest : List Char} {word : String} {others : List String} (blank : IsGap gap)
      (apart : gap ≠ []) (isWord : IsWord word) (continues : Continues others rest) :
      Continues (word :: others) (gap ++ (word.toList ++ rest))

/-- A text of the given words in their order, with gaps between them, and possibly one before the
first and one behind the last. -/
inductive MadeOf : List String → List Char → Prop where
  | gap {gap : List Char} (blank : IsGap gap) : MadeOf [] gap
  | words {gap rest : List Char} {word : String} {others : List String} (blank : IsGap gap)
      (isWord : IsWord word) (continues : Continues others rest) :
      MadeOf (word :: others) (gap ++ (word.toList ++ rest))

theorem IsGap.append {left right : List Char} (hLeft : IsGap left) (hRight : IsGap right) :
    IsGap (left ++ right) :=
  List.forall_mem_append.mpr ⟨hLeft, hRight⟩

theorem isGap_nil : IsGap [] := fun _ hMem => absurd hMem List.not_mem_nil

/-- Whether characters are a gap can be evaluated. -/
theorem isGap_of_any {gap : List Char} (h : gap.any isAlphanumeric = false) : IsGap gap :=
  fun c hMem => Bool.eq_false_iff.mpr (List.any_eq_false.mp h c hMem)

/-- Behind a gap that keeps them apart, a text of words continues another one. -/
theorem MadeOf.continues {words : List String} {text gap : List Char} (h : MadeOf words text)
    (hGap : IsGap gap) (hApart : gap ≠ []) : Continues words (gap ++ text) := by
  cases h with
  | gap blank => exact .done (hGap.append blank)
  | words blank isWord continues =>
      rw [← List.append_assoc]
      exact .next (hGap.append blank) (List.append_ne_nil_of_left_ne_nil hApart _) isWord continues

theorem isGap_blank : IsGap [' '] := isGap_of_any (by decide +kernel)

/-- A text of words continues another one behind a blank. -/
theorem MadeOf.continues_blank {words : List String} {text : List Char} (h : MadeOf words text) :
    Continues words ([' '] ++ text) :=
  h.continues isGap_blank (List.cons_ne_nil ' ' [])

/-! ## Cutting a text of words -/

theorem splitAll_eq_splitOnP (isSep : Char → Bool) (text : List Char) :
    splitAll isSep text = text.splitOnP isSep := by
  induction text with
  | nil => rfl
  | cons c rest ih =>
      rw [splitAll, List.splitOnP_cons_eq_if_modifyHead, ih]
      cases hPieces : rest.splitOnP isSep with
      | nil => exact absurd hPieces (List.splitOnP_ne_nil isSep rest)
      | cons first others => rfl

/-- A cut at a character that belongs to no word cuts no word. -/
theorem wordsOf_append_cons (front rest : List Char) {c : Char} (h : isAlphanumeric c = false) :
    wordsOf (front ++ c :: rest) = wordsOf front ++ wordsOf rest := by
  have hSep : isSeparator c = true := by rw [isSeparator, h]; rfl
  simp only [wordsOf, splitAll_eq_splitOnP, List.splitOnP_append_cons front rest hSep,
    List.filter_append]

theorem wordsOf_gap_append {gap : List Char} (hGap : IsGap gap) (rest : List Char) :
    wordsOf (gap ++ rest) = wordsOf rest := by
  induction gap with
  | nil => rfl
  | cons c gap ih =>
      obtain ⟨hHead, hTail⟩ := List.forall_mem_cons.mp hGap
      exact (wordsOf_append_cons [] (gap ++ rest) hHead).trans (ih hTail)

theorem wordsOf_word {word : String} (h : IsWord word) : wordsOf word.toList = [word.toList] := by
  have hPieces : splitAll isSeparator word.toList = [word.toList] := by
    rw [splitAll_eq_splitOnP]
    refine List.splitOnP_eq_singleton fun c hMem => ?_
    rw [isSeparator, h.2 c hMem]
    rfl
  have hKept : word.toList.isEmpty = false := by simpa using h.1
  rw [wordsOf, hPieces, List.filter_singleton, hKept]
  rfl

/-- What stands behind a word does not go on with it. -/
theorem Continues.eq_nil_or_cons {words : List String} {text : List Char}
    (h : Continues words text) :
    text = [] ∨ ∃ c rest, text = c :: rest ∧ isAlphanumeric c = false := by
  have hGap : ∀ {gap : List Char}, IsGap gap → gap ≠ [] → ∀ behind,
      ∃ c rest, gap ++ behind = c :: rest ∧ isAlphanumeric c = false := by
    intro gap hBlank hApart behind
    obtain ⟨c, others, rfl⟩ := List.exists_cons_of_ne_nil hApart
    exact ⟨c, others ++ behind, rfl, hBlank c List.mem_cons_self⟩
  cases h with
  | done blank =>
      by_cases hEmpty : text = []
      · exact .inl hEmpty
      · refine .inr ?_
        rw [← List.append_nil text]
        exact hGap blank hEmpty []
  | next blank apart isWord continues => exact .inr (hGap blank apart _)

theorem wordsOf_word_append {word : String} {others : List String} {rest : List Char}
    (hWord : IsWord word) (hRest : Continues others rest) :
    wordsOf (word.toList ++ rest) = word.toList :: wordsOf rest := by
  rcases hRest.eq_nil_or_cons with rfl | ⟨c, behind, rfl, hSep⟩
  · rw [List.append_nil, wordsOf_word hWord]
    rfl
  · rw [wordsOf_append_cons _ _ hSep, wordsOf_word hWord, ← List.nil_append (c :: behind),
      wordsOf_append_cons _ _ hSep]
    rfl

/-- The cut finds the words behind a word. -/
theorem Continues.wordsOf_eq {words : List String} {text : List Char} (h : Continues words text) :
    (wordsOf text).map String.ofList = words := by
  induction h with
  | @done gap blank =>
      rw [← List.append_nil gap, wordsOf_gap_append blank]
      rfl
  | next blank apart isWord continues ih =>
      rw [wordsOf_gap_append blank, wordsOf_word_append isWord continues, List.map_cons, ih,
        String.ofList_toList]

/-- **The cut finds the words that a text is made of.** -/
theorem MadeOf.wordsOf_eq {words : List String} {text : List Char} (h : MadeOf words text) :
    (wordsOf text).map String.ofList = words := by
  rw [← wordsOf_gap_append isGap_blank]
  exact h.continues_blank.wordsOf_eq

/-! ## Every text is made of words -/

theorem isWord_ofList {word : List Char} (hSome : word ≠ [])
    (hAll : ∀ c ∈ word, isAlphanumeric c = true) : IsWord (String.ofList word) := by
  rw [IsWord, String.toList_ofList]
  refine ⟨fun hEmpty => hSome ?_, hAll⟩
  rw [← String.toList_ofList (l := word), hEmpty]
  rfl

/-- A character in front of a text begins a gap or a word, or goes on with the one that is there. -/
theorem exists_madeOf (text : List Char) : ∃ words, MadeOf words text := by
  induction text with
  | nil => exact ⟨[], .gap isGap_nil⟩
  | cons c text ih =>
      obtain ⟨found, h⟩ := ih
      cases hChar : isAlphanumeric c with
      | false =>
          have hGap : ∀ {gap : List Char}, IsGap gap → IsGap (c :: gap) :=
            fun blank => List.forall_mem_cons.mpr ⟨hChar, blank⟩
          cases h with
          | gap blank => exact ⟨[], .gap (hGap blank)⟩
          | words blank isWord continues => exact ⟨_, .words (hGap blank) isWord continues⟩
      | true =>
          -- The letter begins a word of its own unless there is one right behind it.
          have hAlone : IsWord (String.ofList [c]) :=
            isWord_ofList (List.cons_ne_nil c []) (List.forall_mem_singleton.mpr hChar)
          cases h with
          | gap blank =>
              refine ⟨[String.ofList [c]], ?_⟩
              have hMade := MadeOf.words isGap_nil hAlone (.done blank)
              rwa [String.toList_ofList] at hMade
          | @words gap rest word others blank isWord continues =>
              cases gap with
              | nil =>
                  refine ⟨String.ofList (c :: word.toList) :: others, ?_⟩
                  have hLonger : IsWord (String.ofList (c :: word.toList)) :=
                    isWord_ofList (List.cons_ne_nil _ _)
                      (List.forall_mem_cons.mpr ⟨hChar, isWord.2⟩)
                  have hMade := MadeOf.words isGap_nil hLonger continues
                  rwa [String.toList_ofList] at hMade
              | cons d gap =>
                  refine ⟨String.ofList [c] :: word :: others, ?_⟩
                  have hMade := MadeOf.words isGap_nil hAlone
                    (.next blank (List.cons_ne_nil d gap) isWord continues)
                  rwa [String.toList_ofList] at hMade

/-- **The words of a text are the only ones that it is made of**, and it is made of them. -/
theorem madeOf_iff {text : String} {found : List String} :
    MadeOf found text.toList ↔ found = words text := by
  constructor
  · exact fun h => h.wordsOf_eq.symm
  · rintro rfl
    obtain ⟨found, h⟩ := exists_madeOf text.toList
    rwa [words, h.wordsOf_eq]

theorem words_eq_nil_iff {text : String} : words text = [] ↔ IsGap text.toList := by
  rw [eq_comm, ← madeOf_iff]
  constructor
  · intro h
    cases h with
    | gap blank => exact blank
  · exact .gap

theorem isWord_of_mem_words {text word : String} (h : word ∈ words text) : IsWord word := by
  obtain ⟨chars, hMem, rfl⟩ := List.mem_map.mp h
  obtain ⟨hSome, hAll⟩ := mem_wordsOf hMem
  exact isWord_ofList hSome hAll

theorem Continues.filter_eq {found : List String} {text : List Char} (h : Continues found text) :
    text.filter isAlphanumeric = found.flatMap String.toList := by
  have hGap : ∀ {gap : List Char}, IsGap gap → gap.filter isAlphanumeric = [] := by
    intro gap blank
    exact List.filter_eq_nil_iff.mpr fun c hMem => by simp [blank c hMem]
  induction h with
  | done blank => exact hGap blank
  | next blank apart isWord continues ih =>
      rw [List.filter_append, List.filter_append, hGap blank, ih,
        List.filter_eq_self.mpr isWord.2]
      rfl

/-- **No word is lost**: what is alphanumeric in a text are its words, in their order. -/
theorem MadeOf.filter_eq {found : List String} {text : List Char} (h : MadeOf found text) :
    text.filter isAlphanumeric = found.flatMap String.toList := by
  rw [← h.continues_blank.filter_eq, List.filter_append,
    List.filter_singleton, isGap_blank ' ' (List.mem_singleton_self ' ')]
  rfl

/-! ## Prefix queries -/

theorem prefixQuery_singleton (word : String) : prefixQuery [word] = word ++ ":*" := by
  rw [prefixQuery, List.map_singleton, String.intercalate_singleton]

theorem prefixQuery_cons_cons (word next : String) (others : List String) :
    prefixQuery (word :: next :: others) =
      word ++ ":*" ++ " & " ++ prefixQuery (next :: others) := by
  rw [prefixQuery, List.map_cons, List.map_cons, String.intercalate_cons_cons]
  rfl

theorem isGap_sign : IsGap ":*".toList := isGap_of_any (by decide +kernel)

theorem isGap_and : IsGap " & ".toList := isGap_of_any (by decide +kernel)

/-- **A prefix query is made of the words that it asks for.** -/
theorem madeOf_prefixQuery {asked : List String} (h : ∀ word ∈ asked, IsWord word) :
    MadeOf asked (prefixQuery asked).toList := by
  induction asked with
  | nil => exact .gap isGap_nil
  | cons word others ih =>
      obtain ⟨hWord, hOthers⟩ := List.forall_mem_cons.mp h
      cases others with
      | nil =>
          rw [prefixQuery_singleton, String.toList_append]
          exact .words isGap_nil hWord (.done isGap_sign)
      | cons next others =>
          rw [prefixQuery_cons_cons, String.toList_append, String.toList_append,
            String.toList_append, List.append_assoc, List.append_assoc]
          refine .words isGap_nil hWord ?_
          rw [← List.append_assoc]
          exact (ih hOthers).continues (isGap_sign.append isGap_and) (by decide)

/-- **The words of a prefix query are those that it asks for.** -/
theorem words_prefixQuery {asked : List String} (h : ∀ word ∈ asked, IsWord word) :
    words (prefixQuery asked) = asked :=
  (madeOf_iff.mp (madeOf_prefixQuery h)).symm

theorem prefixQuery_eq_empty_iff {asked : List String} : prefixQuery asked = "" ↔ asked = [] := by
  constructor
  · intro h
    match asked with
    | [] => rfl
    | [word] => simp [prefixQuery_singleton] at h
    | word :: next :: others => simp [prefixQuery_cons_cons] at h
  · rintro rfl
    rfl

/-- What stands in a query for one word. -/
def prefixTerms : Language Char := {text | ∃ word, IsWord word ∧ text = word.toList ++ ":*".toList}

/-- The queries for some words, `word:* ( & word:*)*`. -/
def prefixQueries : Language Char := prefixTerms * ({" & ".toList} * prefixTerms)∗

/-- **The form of a query for some words.** -/
theorem mem_prefixQueries {asked : List String} (hSome : asked ≠ [])
    (h : ∀ word ∈ asked, IsWord word) : (prefixQuery asked).toList ∈ prefixQueries := by
  induction asked with
  | nil => exact absurd rfl hSome
  | cons word others ih =>
      obtain ⟨hWord, hOthers⟩ := List.forall_mem_cons.mp h
      cases others with
      | nil =>
          rw [prefixQuery_singleton, String.toList_append]
          refine Language.mem_mul.mpr ⟨_, ⟨word, hWord, rfl⟩, [], ?_, List.append_nil _⟩
          exact Language.nil_mem_kstar _
      | cons next others =>
          obtain ⟨first, hFirst, rest, hRest, hQuery⟩ :=
            Language.mem_mul.mp (ih (List.cons_ne_nil next others) hOthers)
          rw [prefixQuery_cons_cons, String.toList_append, String.toList_append,
            String.toList_append, ← hQuery, List.append_assoc]
          refine Language.mem_mul.mpr ⟨_, ⟨word, hWord, rfl⟩, _, ?_, rfl⟩
          rw [← List.append_assoc]
          have hMore := Language.append_mem_mul (Language.append_mem_mul
            (Set.mem_singleton " & ".toList) hFirst) hRest
          exact (mul_kstar_le_kstar :
            ({" & ".toList} * prefixTerms) * ({" & ".toList} * prefixTerms)∗ ≤ _) hMore

/-- Without its words a query is one for as many empty ones. -/
theorem filter_prefixQuery {asked : List String} (h : ∀ word ∈ asked, IsWord word) :
    (prefixQuery asked).toList.filter (fun c => !isAlphanumeric c) =
      (prefixQuery (asked.map fun _ => "")).toList := by
  have hWordless : ∀ {word : String}, IsWord word →
      word.toList.filter (fun c => !isAlphanumeric c) = [] := by
    intro word hWord
    exact List.filter_eq_nil_iff.mpr fun c hMem => by simp [hWord.2 c hMem]
  have hGap : ∀ {gap : List Char}, IsGap gap →
      gap.filter (fun c => !isAlphanumeric c) = gap := by
    intro gap blank
    exact List.filter_eq_self.mpr fun c hMem => by simp [blank c hMem]
  induction asked with
  | nil => rfl
  | cons word others ih =>
      obtain ⟨hWord, hOthers⟩ := List.forall_mem_cons.mp h
      cases others with
      | nil =>
          rw [List.map_singleton, prefixQuery_singleton, prefixQuery_singleton,
            String.toList_append, String.toList_append, List.filter_append, hWordless hWord,
            hGap isGap_sign]
          rfl
      | cons next others =>
          have hNext := ih hOthers
          rw [List.map_cons] at hNext
          rw [List.map_cons, List.map_cons, prefixQuery_cons_cons, prefixQuery_cons_cons]
          simp only [String.toList_append, List.filter_append, hWordless hWord, hGap isGap_sign,
            hGap isGap_and, hNext]
          rfl

/-- The characters that a text search takes for operators or for quotes. -/
def queryOperators : List Char := ['&', '|', '!', '<', '-', '>', '(', ')', ':', '*', '\'', '\\']

theorem isGap_queryOperators : IsGap queryOperators := isGap_of_any (by decide +kernel)

/-- **A prefix query asks for the words of a text.**  A text is made of its words and of no other
list of words.  The query for them is empty if there is none, and else it has one term for each,
with `&` between them: its alphanumeric characters are those of the text, and the rest is the same
for all texts with as many words, so that nothing in a text is taken for an operator.  The words of
a query for any words are just these, so different words make different queries. -/
theorem query_asks_for_words (text : String) :
    (∀ found, MadeOf found text.toList ↔ found = words text) ∧
    (prefixQuery (words text) = "" ↔ ∀ c ∈ text.toList, isAlphanumeric c = false) ∧
    ((∃ c ∈ text.toList, isAlphanumeric c = true) →
      (prefixQuery (words text)).toList ∈ prefixQueries) ∧
    (∀ word ∈ words text, ∀ c ∈ word.toList, c ∉ queryOperators) ∧
    (prefixQuery (words text)).toList.filter isAlphanumeric =
      text.toList.filter isAlphanumeric ∧
    (prefixQuery (words text)).toList.filter (fun c => !isAlphanumeric c) =
      (prefixQuery ((words text).map fun _ => "")).toList ∧
    ∀ asked, (∀ word ∈ asked, IsWord word) → words (prefixQuery asked) = asked ∧
      ∀ others, (∀ word ∈ others, IsWord word) → prefixQuery asked = prefixQuery others →
        asked = others := by
  have hWords : ∀ word ∈ words text, IsWord word := fun word hMem => isWord_of_mem_words hMem
  have hMade : MadeOf (words text) text.toList := madeOf_iff.mpr rfl
  refine ⟨fun found => madeOf_iff, prefixQuery_eq_empty_iff.trans words_eq_nil_iff, ?_, ?_, ?_,
    filter_prefixQuery hWords, ?_⟩
  · rintro ⟨c, hMem, hChar⟩
    refine mem_prefixQueries (fun hNone => ?_) hWords
    rw [words_eq_nil_iff.mp hNone c hMem] at hChar
    cases hChar
  · intro word hWord c hMem hOperator
    have hChar := (hWords word hWord).2 c hMem
    rw [isGap_queryOperators c hOperator] at hChar
    cases hChar
  · rw [(madeOf_prefixQuery hWords).filter_eq, hMade.filter_eq]
  · intro asked hAsked
    refine ⟨words_prefixQuery hAsked, fun others hOthers hSame => ?_⟩
    rw [← words_prefixQuery hAsked, hSame, words_prefixQuery hOthers]

/-- The operators of a term leave no trace in its query, and the words of a query are read back. -/
theorem query_asks_for_words_of_operators :
    let text := "a&b|!c:*(d) "
    words text = ["a", "b", "c", "d"] ∧
      prefixQuery (words text) = "a:* & b:* & c:* & d:*" ∧
      MadeOf ["a", "b", "c", "d"] text.toList ∧
      (prefixQuery (words text)).toList ∈ prefixQueries ∧
      words (prefixQuery ["Zoë", "42"]) = ["Zoë", "42"] := by
  intro text
  have hFound : words text = ["a", "b", "c", "d"] := by decide +kernel
  obtain ⟨hMade, -, hForm, -, -, -, hBack⟩ := query_asks_for_words text
  refine ⟨hFound, ?_, (hMade _).mpr hFound.symm, hForm ⟨'a', by decide +kernel⟩, ?_⟩
  · rw [hFound]
    rfl
  · refine (hBack _ ?_).1
    exact List.forall_mem_cons.mpr ⟨⟨by decide, List.all_eq_true.mp (by decide +kernel)⟩,
      List.forall_mem_singleton.mpr ⟨by decide, List.all_eq_true.mp (by decide +kernel)⟩⟩

end FieldSearch.Text
