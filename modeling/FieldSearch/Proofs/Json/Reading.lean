import FieldSearch.Json.Printer
import FieldSearch.Json.Reader
import FieldSearch.Proofs.Outcome
import Mathlib

/-!
# Reading what was written

A reader takes a value from the front of a text and leaves the rest.  Readers that are run
one after the other take what each of them takes, so a reader is followed through a text
token by token.

The items of a list and the entries of an object are written in the same way: parts with
commas between them and a closing bracket behind them.  `closed` writes such parts from the
first or from a later one on, as the loops read them, and each step of a loop takes the
part in front.  There are enough steps since every part but the first has its comma.

## Main results

* `takes_readTextBody`: a text between quotes is read again, whatever was escaped.
* `takes_foldItems_cons`, `takes_foldEntries_cons`: one step of the loops.
-/

namespace FieldSearch.Json

open Number (hexValue?)

variable {α β σ : Type} {text rest : List Char}

/-- The reader takes the value from the front of the text and leaves the rest. -/
def Takes (reader : Reader α) (text : List Char) (value : α) (rest : List Char) : Prop :=
  reader.run text = .ok (value, rest)

theorem takes_bind_iff {first : Reader α} {next : α → Reader β} {result : β} :
    Takes (first >>= next) text result rest ↔
      ∃ value middle, Takes first text value middle ∧ Takes (next value) middle result rest := by
  rw [Takes, StateT.run_bind, bind_eq_ok]
  constructor
  · rintro ⟨⟨value, middle⟩, hFirst, hNext⟩
    exact ⟨value, middle, hFirst, hNext⟩
  · rintro ⟨value, middle, hFirst, hNext⟩
    exact ⟨(value, middle), hFirst, hNext⟩

theorem Takes.bind {first : Reader α} {next : α → Reader β} {value : α} {result : β}
    {middle : List Char} (hFirst : Takes first text value middle)
    (hNext : Takes (next value) middle result rest) : Takes (first >>= next) text result rest :=
  takes_bind_iff.mpr ⟨value, middle, hFirst, hNext⟩

theorem takes_pure_iff {value result : α} :
    Takes (pure value) text result rest ↔ value = result ∧ text = rest := by
  constructor
  · intro h
    exact Prod.mk.inj (Except.ok.inj h)
  · rintro ⟨rfl, rfl⟩
    rfl

theorem Takes.map {reader : Reader α} {value : α} (f : α → β)
    (h : Takes reader text value rest) : Takes (f <$> reader) text (f value) rest := by
  rw [map_eq_pure_bind]
  exact h.bind rfl

/-- An outcome that does not depend on the text. -/
theorem takes_lift {outcome : Except Fault α} {value : α} (h : outcome = .ok value) :
    Takes (liftM outcome) text value text := by
  rw [h]
  rfl

theorem takes_get : Takes get text text text := rfl

/-! ## Tokens -/

theorem takes_peek {c : Char} (h : isBlank c = false) (fault : Malformed) :
    Takes (peek fault) (c :: rest) c (c :: rest) := by
  have hSkip : skipBlanks (c :: rest) = c :: rest := by
    rw [skipBlanks, h]
    rfl
  rw [peek]
  refine takes_get.bind ?_
  rw [hSkip]
  rfl

theorem takes_advance {c : Char} : Takes advance (c :: rest) () rest := rfl

theorem takes_expectWord (word : List Char) : Takes (expectWord word) (word ++ rest) () rest := by
  induction word with
  | nil => rfl
  | cons c more ih =>
      have hStep : (expectWord (c :: more)).run (c :: more ++ rest) =
          (if c = c then expectWord more else malformed .expectedWord).run (more ++ rest) := rfl
      rw [Takes, hStep, if_pos rfl]
      exact ih

theorem takes_expectColon : Takes expectColon (':' :: rest) () rest := rfl

/-! ## Texts -/

theorem hexValue?_digitChar : ∀ n < 16, hexValue? (Nat.digitChar n) = some n := by decide

theorem takes_readHex {n : Nat} (h : n < 0x100) :
    Takes readHex ('0' :: '0' :: twoHex n ++ rest) n rest := by
  have hHigh := hexValue?_digitChar (n / 16) (by omega)
  have hLow := hexValue?_digitChar (n % 16) (by omega)
  have hZero : hexValue? '0' = some 0 := rfl
  have hValue : ((0 * 16 + 0) * 16 + n / 16) * 16 + n % 16 = n := by omega
  rw [readHex]
  refine takes_get.bind ?_
  rw [twoHex]
  dsimp only [List.cons_append, List.nil_append]
  rw [hZero, hHigh, hLow]
  dsimp only
  rw [hValue]
  rfl

theorem takes_readUnicodeEscape {c : Char} (h : c.toNat < 0x100) :
    Takes readUnicodeEscape ('0' :: '0' :: twoHex c.toNat ++ rest) c rest := by
  refine (takes_readHex h).bind ?_
  rw [if_neg (by omega), if_pos (by omega), Char.ofNat_toNat]
  rfl

/-- One character between quotes is read again, whether it is escaped or not. -/
theorem run_readTextFrom_escapeChar (c : Char) (fuel : Nat) (read : List Char) :
    (readTextFrom (fuel + 1) read).run (escapeChar c ++ rest) =
      (readTextFrom fuel (c :: read)).run rest := by
  have hCode {n : Nat} (h : c.toNat = n) : c = Char.ofNat n := by rw [← h, Char.ofNat_toNat]
  unfold escapeChar
  split_ifs with hQuote hBackslash hBackspace hFeed hLine hReturn hTab hControl
  · subst hQuote
    rfl
  · subst hBackslash
    rfl
  · obtain rfl := hCode hBackspace
    rfl
  · obtain rfl := hCode hFeed
    rfl
  · subst hLine
    rfl
  · subst hReturn
    rfl
  · subst hTab
    rfl
  · have hStep : (readTextFrom (fuel + 1) read).run
          (['\\', 'u', '0', '0'] ++ twoHex c.toNat ++ rest) =
        (readUnicodeEscape >>= fun c => readTextFrom fuel (c :: read)).run
          ('0' :: '0' :: twoHex c.toNat ++ rest) := rfl
    have hEscape : Takes readUnicodeEscape ('0' :: '0' :: twoHex c.toNat ++ rest) c rest :=
      takes_readUnicodeEscape (by omega)
    rw [hStep, StateT.run_bind, hEscape]
    rfl
  · simp [readTextFrom, hControl]

/-- Escapes make a text no shorter. -/
theorem length_le_length_escaped (value : List Char) :
    value.length ≤ (value.flatMap escapeChar).length := by
  induction value with
  | nil => exact le_refl _
  | cons c more ih =>
      have hSome : 0 < (escapeChar c).length := by
        unfold escapeChar
        split_ifs <;> simp
      rw [List.flatMap_cons, List.length_append, List.length_cons]
      omega

theorem takes_readTextFrom (value rest : List Char) : ∀ {fuel : Nat} (read : List Char),
    value.length < fuel →
      Takes (readTextFrom fuel read) (value.flatMap escapeChar ++ '"' :: rest)
        (String.ofList (read.reverse ++ value)) rest := by
  induction value with
  | nil =>
      intro fuel read hFuel
      obtain ⟨fuel, rfl⟩ := Nat.exists_eq_succ_of_ne_zero (Nat.ne_of_gt hFuel)
      rw [List.append_nil]
      rfl
  | cons c more ih =>
      intro fuel read hFuel
      obtain ⟨fuel, rfl⟩ := Nat.exists_eq_succ_of_ne_zero (Nat.ne_zero_of_lt hFuel)
      have hRest := ih (c :: read) (Nat.lt_of_succ_lt_succ hFuel)
      rw [List.reverse_cons, List.append_assoc, List.singleton_append] at hRest
      rw [Takes, List.flatMap_cons, List.append_assoc, run_readTextFrom_escapeChar]
      exact hRest

/-- **A text between quotes is read again.** -/
theorem takes_readTextBody (value : String) :
    Takes readTextBody (value.toList.flatMap escapeChar ++ '"' :: rest) value rest := by
  refine takes_get.bind ?_
  have hFuel : value.toList.length <
      (value.toList.flatMap escapeChar ++ '"' :: rest).length + 1 := by
    have hLength := length_le_length_escaped value.toList
    rw [List.length_append]
    omega
  have hText := takes_readTextFrom value.toList rest [] hFuel
  rwa [List.reverse_nil, List.nil_append, String.ofList_toList] at hText

theorem toList_printText (value : String) :
    (printText value).toList = '"' :: (value.toList.flatMap escapeChar ++ ['"']) := by
  rw [printText, String.toList_ofList]
  rfl

/-! ## Lists and objects -/

/-- What stands in front of a part: a comma, unless it is the first. -/
def comma : Bool → List Char
  | true => []
  | false => [',']

/-- Parts with commas between them, from the first or from a later one on, up to the bracket. -/
def closed (bracket : Char) : Bool → List (List Char) → List Char
  | _, [] => [bracket]
  | first, part :: parts => comma first ++ part ++ closed bracket false parts

theorem intercalate_append_bracket (bracket : Char) (parts : List (List Char)) :
    [','].intercalate parts ++ [bracket] = closed bracket true parts := by
  have hLater (part : List Char) (parts : List (List Char)) :
      [','].intercalate (part :: parts) ++ [bracket] = part ++ closed bracket false parts := by
    induction parts generalizing part with
    | nil => simp [closed]
    | cons next parts ih =>
        rw [closed, List.append_assoc (comma false), ← ih, List.intercalate_cons_cons, comma,
          List.append_assoc, List.append_assoc]
  cases parts with
  | nil => rfl
  | cons part parts => exact hLater part parts

/-- There are no more parts than characters, whatever stands behind the bracket. -/
theorem length_lt_length_closed (bracket : Char) (parts : List (List Char)) (rest : List Char) :
    parts.length < (closed bracket true parts ++ rest).length + 1 := by
  have hLater (parts : List (List Char)) :
      parts.length < (closed bracket false parts).length := by
    induction parts with
    | nil => exact Nat.zero_lt_one
    | cons part parts ih =>
        rw [closed, comma, List.length_append, List.length_append, List.length_cons,
          List.length_singleton]
        omega
  cases parts with
  | nil => exact Nat.zero_lt_succ _
  | cons part parts =>
      have hParts := hLater parts
      rw [closed, List.length_append, List.length_append, List.length_cons]
      omega

theorem toList_print_list (items : List Json) :
    (print (.list items)).toList =
      '[' :: closed ']' true (items.map fun item => (print item).toList) := by
  have hItems : printItems items = items.map print := by
    induction items with
    | nil => rfl
    | cons item items ih => rw [printItems, ih, List.map_cons]
  rw [print, hItems, ← intercalate_append_bracket]
  simp [Function.comp_def]

/-- An entry of an object in a text. -/
def entryText (key : String) (content : List Char) : List Char :=
  (printText key).toList ++ ':' :: content

theorem toList_print_object (entries : List (String × Json)) :
    (print (.object entries)).toList =
      '\x7b' :: closed '\x7d' true
        (entries.map fun entry => entryText entry.1 (print entry.2).toList) := by
  have hEntries : printEntries entries =
      entries.map fun entry => printText entry.1 ++ ":" ++ print entry.2 := by
    induction entries with
    | nil => rfl
    | cons entry entries ih => rw [printEntries, ih, List.map_cons]
  rw [print, hEntries, ← intercalate_append_bracket]
  simp [Function.comp_def, entryText]

/-- Where a bracket may still be opened there is less depth left inside it. -/
theorem takes_deeper {depth : Nat} : Takes (deeper (depth + 1)) text depth text := rfl

theorem takes_moreItems (first : Bool) {c : Char} (hBlank : isBlank c = false)
    (hOpen : c ≠ ']') : Takes (moreItems first) (comma first ++ c :: rest) true (c :: rest) := by
  cases first with
  | true =>
      refine (takes_peek hBlank _).bind ?_
      rw [if_neg hOpen]
      rfl
  | false =>
      refine (takes_peek rfl _).bind (takes_advance.bind ((takes_peek hBlank _).bind ?_))
      rw [if_neg hOpen]
      rfl

theorem takes_nextKey (first : Bool) (key : String) :
    Takes (nextKey first) (comma first ++ ((printText key).toList ++ rest)) (some key) rest := by
  have hKey : Takes (some <$> readTextBody) (key.toList.flatMap escapeChar ++ '"' :: rest)
      (some key) rest := (takes_readTextBody key).map some
  have hText : (printText key).toList ++ rest =
      '"' :: (key.toList.flatMap escapeChar ++ '"' :: rest) := by
    rw [toList_printText]
    simp
  rw [hText]
  cases first <;> exact hKey

section

variable {fuel : Nat} {first : Bool} {state next final : σ} {parts : List (List Char)}

/-- The items end with the bracket. -/
theorem takes_foldItems_nil {item : σ → Reader σ} :
    Takes (foldItems item (fuel + 1) first state) (']' :: rest) state rest := by
  cases first <;> rfl

/-- **One step of the items** takes the part in front of the others. -/
theorem takes_foldItems_cons {item : σ → Reader σ} {c : Char} {part : List Char}
    (hBlank : isBlank c = false) (hOpen : c ≠ ']')
    (hItem : Takes (item state) (c :: part ++ (closed ']' false parts ++ rest)) next
      (closed ']' false parts ++ rest))
    (hMore : Takes (foldItems item fuel false next) (closed ']' false parts ++ rest) final rest) :
    Takes (foldItems item (fuel + 1) first state) (closed ']' first ((c :: part) :: parts) ++ rest)
      final rest := by
  rw [closed, List.append_assoc, List.append_assoc]
  exact (takes_moreItems first hBlank hOpen).bind (hItem.bind hMore)

/-- The entries end with the bracket. -/
theorem takes_foldEntries_nil {entry : σ → String → Reader σ} :
    Takes (foldEntries entry (fuel + 1) first state) ('\x7d' :: rest) state rest := by
  cases first <;> rfl

/-- **One step of the entries** takes the part in front of the others, and its key first. -/
theorem takes_foldEntries_cons {entry : σ → String → Reader σ} {key : String}
    {content : List Char}
    (hEntry : Takes (entry state key) (':' :: content ++ (closed '\x7d' false parts ++ rest)) next
      (closed '\x7d' false parts ++ rest))
    (hMore : Takes (foldEntries entry fuel false next) (closed '\x7d' false parts ++ rest) final
      rest) :
    Takes (foldEntries entry (fuel + 1) first state)
      (closed '\x7d' first (entryText key content :: parts) ++ rest) final rest := by
  rw [closed, List.append_assoc, List.append_assoc, entryText, List.append_assoc]
  exact (takes_nextKey first key).bind (hEntry.bind hMore)

end

end FieldSearch.Json
