import FieldSearch.Text.Alphanumeric
import FieldSearch.Text.Split

/-!
# Words and prefix queries

The words of a text are its maximal runs of alphanumeric characters. Everything else separates
words, so that no operator of a text search (`&`, `|`, `!`, `:`, a parenthesis) can come out of one.
A prefix query asks for all of the words, each as the beginning of a word of the searched text.

## Main results

* `mem_wordsOf`: a word is neither empty nor does it hold a separator.
-/

namespace FieldSearch.Text

/-- Whether a character separates words. -/
def isSeparator (c : Char) : Bool := !isAlphanumeric c

/-- The words of a list of characters, in order. -/
def wordsOf (text : List Char) : List (List Char) :=
  (splitAll isSeparator text).filter (!·.isEmpty)

/-- The words of a text: its maximal alphanumeric runs, in order. -/
def words (text : String) : List String := (wordsOf text.toList).map String.ofList

/-- Whether a text has a word. -/
def hasWord (text : String) : Bool := text.toList.any isAlphanumeric

/-- The query for all of the words, each as a beginning: `word:* & word:*`. -/
def prefixQuery (words : List String) : String :=
  String.intercalate " & " (words.map fun word => word ++ ":*")

theorem mem_splitAll {isSep : Char → Bool} {text piece : List Char}
    (h : piece ∈ splitAll isSep text) : ∀ c ∈ piece, isSep c = false := by
  induction text generalizing piece with
  | nil =>
      simp only [splitAll, List.mem_singleton] at h
      subst h
      simp
  | cons d rest ih =>
      simp only [splitAll] at h
      split at h
      · rcases List.mem_cons.mp h with rfl | hMem
        · simp
        · exact ih hMem
      · rename_i hSep
        split at h
        · rename_i hNil
          exact absurd hNil (splitAll_ne_nil isSep rest)
        · rename_i first others hPieces
          rcases List.mem_cons.mp h with rfl | hMem
          · have hFirst : first ∈ splitAll isSep rest := by simp [hPieces]
            intro c hc
            rcases List.mem_cons.mp hc with rfl | hc
            · simpa using hSep
            · exact ih hFirst c hc
          · exact ih (by simp [hPieces, hMem])

theorem mem_wordsOf {text word : List Char} (h : word ∈ wordsOf text) :
    word ≠ [] ∧ ∀ c ∈ word, isAlphanumeric c = true := by
  simp only [wordsOf, List.mem_filter, Bool.not_eq_true'] at h
  refine ⟨by rintro rfl; simp at h, fun c hc => ?_⟩
  have hSep := mem_splitAll h.1 c hc
  simpa [isSeparator] using hSep

end FieldSearch.Text
