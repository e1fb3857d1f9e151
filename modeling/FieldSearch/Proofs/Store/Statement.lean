import FieldSearch.Proofs.Outcome
import FieldSearch.Proofs.Sql.Placeholders
import FieldSearch.Proofs.Text.Matching
import FieldSearch.Store.Statement
import Mathlib

/-!
# Statements that are taken

The database refuses a statement that it cannot read: one with too many
parameters, with conditions that are combined too high, or with a NUL in a name.
Names that are identifiers have none, so a statement on such names is taken if it
is small enough.

A step of reading adds to the parameters, and a condition adds to the height of
those before it.  `Template.Clean` says of a text that reading it cannot fail but
for the number of parameters, and `Filter.Readable` says it of a filter, with a
bound on its height.

## Main results

* `readable_idIn`, `readable_columnEquals`, `readable_search`: filters on names
  that are identifiers are readable.
* `fault?_eq_none`: a statement with few parameters and few readable filters is
  taken.
* `fault?_ne_none_of_idIn`: a statement with too many ids is not.
-/

namespace FieldSearch

open Database (Fault)
open Sql (Piece Template Part)

/-! ## Texts without NUL -/

/-- However many values were bound before the piece, its text has no NUL. -/
def Sql.Piece.Clean (piece : Piece) : Prop := ∀ count, Text.NulFree (piece.text .sqlite count)

/-- The texts of the pieces have no NUL. -/
def Sql.Template.Clean (template : Template) : Prop := ∀ piece ∈ template, piece.Clean

theorem Text.toNat_ne_zero_of_isIdentifierPart {c : Char} (h : isIdentifierPart c = true) :
    c.toNat ≠ 0 := by
  intro hZero
  have hNul : c = '\x00' := Char.toNat_inj.mp hZero
  rw [hNul] at h
  cases h

theorem Text.isIdentifierPart_of_isIdentifier {name : String} (h : isIdentifier name = true) :
    ∀ c ∈ name.toList, isIdentifierPart c = true := by
  rw [isIdentifier] at h
  cases hName : name.toList with
  | nil => exact nofun
  | cons first rest =>
      rw [hName] at h
      obtain ⟨hStart, hRest⟩ := isIdentifierList_cons.mp h
      refine List.forall_mem_cons.mpr ⟨?_, hRest⟩
      simp only [isIdentifierStart, isIdentifierPart, Char.isAlphanum, Bool.or_eq_true] at hStart ⊢
      rcases hStart with hAlpha | hUnderscore
      · exact .inl (.inl hAlpha)
      · exact .inr hUnderscore

theorem Text.mem_doubleQuotes {text : List Char} {c : Char} (h : c ∈ doubleQuotes text) :
    c ∈ text ∨ c = '"' := by
  induction text with
  | nil => cases h
  | cons d text ih =>
      rw [doubleQuotes] at h
      split at h <;> grind

namespace Sql

theorem Piece.clean_name {name : String} (h : Text.isIdentifier name = true) :
    (Piece.name name).Clean := by
  intro count c hc
  have hc : c ∈ '"' :: Text.doubleQuotes name.toList ++ ['"'] := by
    simpa [Piece.text, Text.quoteIdentifier] using hc
  have hQuote : c = '"' → c.toNat ≠ 0 := by
    rintro rfl
    decide
  rcases List.mem_append.mp hc with hFront | hEnd
  · rcases List.mem_cons.mp hFront with hFirst | hInner
    · exact hQuote hFirst
    · rcases Text.mem_doubleQuotes hInner with hName | hDoubled
      · exact Text.toNat_ne_zero_of_isIdentifierPart
          (Text.isIdentifierPart_of_isIdentifier h c hName)
      · exact hQuote hDoubled
  · exact hQuote (List.mem_singleton.mp hEnd)

theorem Piece.clean_value (value : Value) : (Piece.value value).Clean := by
  intro count c hc
  have hc : c ∈ '?' :: Nat.toDigits 10 (count + 1) := by
    have hText := toList_placeholder .sqlite (count + 1)
    rw [← show Dialect.sqlite.mark = '?' from rfl, ← hText]
    exact hc
  rcases List.mem_cons.mp hc with rfl | hDigit
  · decide
  · have hPart : c.isDigit = true := Nat.isDigit_of_mem_toDigits (by decide) (by decide) hDigit
    exact Text.toNat_ne_zero_of_isIdentifierPart (isDigit_isIdentifierPart hPart)

theorem Piece.clean_fixed {text : String} (h : Text.NulFree text) : (Piece.fixed text).Clean :=
  fun _ => h

namespace Template

theorem Clean.append {left right : Template} (hLeft : Clean left) (hRight : Clean right) :
    Clean (left ++ right) := List.forall_mem_append.mpr ⟨hLeft, hRight⟩

theorem clean_singleton {piece : Piece} (h : piece.Clean) : Clean [piece] :=
  List.forall_mem_singleton.mpr h

theorem Clean.joined {separator : String} (hSeparator : Text.NulFree separator)
    {templates : List Template} (hEach : ∀ template ∈ templates, Clean template) :
    Clean (Template.joined separator templates) := by
  induction templates with
  | nil => exact nofun
  | cons first rest ih =>
      obtain ⟨hFirst, hRest⟩ := List.forall_mem_cons.mp hEach
      cases rest with
      | nil => exact hFirst
      | cons second others =>
          exact hFirst.append (List.forall_mem_cons.mpr ⟨Piece.clean_fixed hSeparator, ih hRest⟩)

end Template
end Sql

/-! ## Reading -/

namespace Reading

theorem exists_piece (reading : Reading) {piece : Piece} (hClean : piece.Clean)
    (hRoom : reading.count + piece.values.length ≤ maxParameters) :
    ∃ next, reading.piece piece = .ok next ∧
      next.count = reading.count + piece.values.length := by
  have hNul : (piece.text .sqlite reading.count).toList.any (·.toNat = 0) = false := by
    rw [List.any_eq_false]
    intro c hc
    simpa using hClean reading.count c hc
  rw [Reading.piece, if_neg (Nat.not_lt.mpr hRoom), hNul, if_neg Bool.false_ne_true]
  exact ⟨_, rfl, rfl⟩

theorem exists_template {template : Template} (hClean : template.Clean) :
    ∀ reading : Reading, reading.count + template.values.length ≤ maxParameters →
      ∃ next, reading.template template = .ok next ∧
        next.count = reading.count + template.values.length := by
  induction template with
  | nil =>
      intro reading _
      exact ⟨reading, rfl, rfl⟩
  | cons piece rest ih =>
      intro reading hRoom
      obtain ⟨hPiece, hRest⟩ := List.forall_mem_cons.mp hClean
      have hValues : (Template.values (piece :: rest)).length =
          piece.values.length + (Template.values rest).length := by
        rw [Template.values, List.flatMap_cons, List.length_append]
        rfl
      rw [hValues] at hRoom ⊢
      obtain ⟨middle, hMiddle, hCount⟩ := exists_piece reading hPiece (by omega)
      obtain ⟨next, hNext, hTotal⟩ := ih hRest middle (by omega)
      refine ⟨next, ?_, by omega⟩
      rw [Reading.template, List.foldlM_cons, hMiddle]
      exact hNext

/-! ## Conditions -/

/-- Fixed text binds nothing. -/
theorem exists_fixed (reading : Reading) {text : String} (hText : Text.NulFree text)
    (hRoom : reading.count ≤ maxParameters) :
    ∃ next, reading.fixed text = .ok next ∧ next.count = reading.count :=
  exists_piece reading (Piece.clean_fixed hText) hRoom

/-- A clause of a search for terms as they stand, in a column with a plain name. -/
def IsPlain (clause : Clause) : Prop :=
  ∃ field term, clause = .contains field term ∧ Text.isIdentifier field = true

theorem exists_single (reading : Reading) {clause : Clause} (hPlain : IsPlain clause)
    (hRoom : reading.count + 1 ≤ maxParameters) :
    ∃ next, reading.predicate (.single clause) = .ok (matchHeight, next) ∧
      next.count = reading.count + 1 := by
  obtain ⟨field, term, rfl, hField⟩ := hPlain
  have hClean : Template.Clean
      (Sql.like .sqlite [.name field] [.value (.text (Text.Like.containing term))]) :=
    ((((Template.clean_singleton (Piece.clean_fixed (by simp [Text.NulFree]))).append
      (Template.clean_singleton (Piece.clean_name hField))).append
      (Template.clean_singleton (Piece.clean_fixed (by simp [Text.NulFree])))).append
      (Template.clean_singleton (Piece.clean_value _))).append
      (Template.clean_singleton (Piece.clean_fixed (by simp [Text.NulFree])))
  obtain ⟨next, hNext, hCount⟩ := exists_template hClean reading hRoom
  refine ⟨next, ?_, hCount⟩
  have hRead : reading.rendering (Sql.renderClause .sqlite none (.contains field term)) =
      .ok next := hNext
  rw [Reading.predicate, hRead]
  rfl

/-- The height of so many clauses behind conditions of a height. -/
def heightBehind (before : Option Nat) : Nat → Option Nat
  | 0 => before
  | more + 1 => some (before.getD 2 + more + 1)

/-- The keyword before an alternative is read if there is one before it. -/
theorem exists_start (reading : Reading) (before : Option Nat)
    (hRoom : reading.count ≤ maxParameters) :
    ∃ start : Reading, start.count = reading.count ∧
      ∀ after : Reading → Except Fault (Option Nat × Reading),
        (if before.isSome then reading.fixed " OR " >>= after else pure reading >>= after) =
          after start := by
  cases before with
  | none => exact ⟨reading, rfl, fun _ => rfl⟩
  | some height =>
      obtain ⟨start, hFixed, hCount⟩ :=
        @exists_fixed reading " OR " (by simp [Text.NulFree]) hRoom
      exact ⟨start, hCount, fun _ => by rw [hFixed]; rfl⟩

/-- A match behind others makes them one higher. -/
theorem combine_match {before : Option Nat} (hBefore : ∀ height ∈ before, matchHeight ≤ height)
    (hHeight : before.getD 2 + 1 ≤ maxHeight) :
    combine before matchHeight = .ok (before.getD 2 + 1) := by
  cases before with
  | none => rfl
  | some height =>
      have hMax : max height matchHeight = height := Nat.max_eq_left (hBefore height rfl)
      rw [combine, hMax]
      exact if_neg (Nat.not_lt.mpr hHeight)

/-- Every clause behind others makes a choice one higher. -/
theorem exists_alternatives {among : List Clause} (hPlain : ∀ clause ∈ among, IsPlain clause) :
    ∀ (reading : Reading) (before : Option Nat), (∀ height ∈ before, matchHeight ≤ height) →
      before.getD 2 + among.length ≤ maxHeight →
      reading.count + among.length ≤ maxParameters →
      ∃ next, reading.alternatives before (among.map .single) =
          .ok (heightBehind before among.length, next) ∧
        next.count = reading.count + among.length := by
  induction among with
  | nil =>
      intro reading before _ _ _
      exact ⟨reading, by rw [List.map_nil, Reading.alternatives]; rfl, rfl⟩
  | cons first rest ih =>
      intro reading before hBefore hHeight hRoom
      obtain ⟨hFirst, hRest⟩ := List.forall_mem_cons.mp hPlain
      rw [List.length_cons] at hHeight hRoom
      obtain ⟨start, hStartCount, hStart⟩ := exists_start reading before (by omega)
      obtain ⟨middle, hMiddle, hMiddleCount⟩ := exists_single start hFirst (by omega)
      have hCombine := combine_match hBefore (by omega)
      -- The clause is now among those before, which are no lower than a match.
      have hBehind : ∀ height ∈ some (before.getD 2 + 1), matchHeight ≤ height := by
        rintro _ ⟨⟩
        cases before with
        | none => exact Nat.le_refl _
        | some height => exact (hBefore height rfl).trans (Nat.le_succ _)
      have hSum : (some (before.getD 2 + 1)).getD 2 + rest.length ≤ maxHeight := by
        rw [Option.getD_some]
        omega
      obtain ⟨next, hNext, hCount⟩ := ih hRest middle _ hBehind hSum (by omega)
      refine ⟨next, ?_, by rw [List.length_cons]; omega⟩
      rw [List.map_cons, Reading.alternatives]
      refine (hStart _).trans ?_
      simp only [bind, Except.bind, hMiddle, hCombine, hNext, List.length_cons]
      congr 2
      cases rest with
      | nil => rfl
      | cons second others =>
          simp only [heightBehind, List.length_cons, Option.getD_some]
          congr 1
          omega

end Reading

/-! ## Filters -/

namespace Filter

/-- The number of parameters of a filter. -/
def weight (config : Option String) (filter : Filter) : Nat :=
  ((filter.parts .sqlite config).flatMap Part.values).length

/-- The filter leaves a trace, can be read wherever there is room for its parameters, and is not so
high that no more filters, as many as are spared, could stand beside it. -/
structure Readable (config : Option String) (spare : Nat) (filter : Filter) : Prop where
  narrows : filter.narrows = true
  read : ∀ reading : Reading, reading.count + filter.weight config ≤ Reading.maxParameters →
    ∃ height next, reading.filter filter = .ok (height, next) ∧
      height + spare ≤ Reading.maxHeight ∧ next.count = reading.count + filter.weight config

variable {config : Option String} {spare : Nat}

/-- A filter of ids or of a value is readable if its text is clean; it is no higher than a match. -/
theorem readable_of_template (hSpare : Reading.matchHeight + spare ≤ Reading.maxHeight)
    {filter : Filter} (hSearch : ∀ predicate, filter ≠ .search predicate)
    {template : Template} (hRendering : Sql.filterRendering .sqlite none filter = .done template)
    (hClean : template.Clean) (hParts : filter.parts .sqlite none = filter.parts .sqlite config) :
    filter.Readable config spare := by
  have hLow : ∀ height ≤ Reading.matchHeight, height + spare ≤ Reading.maxHeight :=
    fun height hHeight => (Nat.add_le_add_right hHeight spare).trans hSpare
  have hNarrows : filter.narrows = true := by
    cases filter with
    | search predicate => exact absurd rfl (hSearch predicate)
    | _ => rfl
  have hValues : template.values.length = filter.weight config := by
    rw [(Sql.holds_filterRendering hRendering hNarrows).values, hParts]
    rfl
  refine ⟨hNarrows, fun reading hRoom => ?_⟩
  rw [← hValues] at hRoom ⊢
  obtain ⟨next, hNext, hCount⟩ := Reading.exists_template hClean reading hRoom
  have hFilter : Sql.renderFilter .sqlite none filter = some (.done template) := by
    rw [Sql.renderFilter_eq, hNarrows, if_pos rfl, hRendering]
  have hRead : reading.rendering (.done template) = .ok next := hNext
  cases filter with
  | search predicate => exact absurd rfl (hSearch predicate)
  | idIn column ids =>
      unfold Reading.filter
      dsimp only
      rw [hFilter]
      dsimp only
      rw [hRead]
      refine ⟨_, next, rfl, hLow _ ?_, hCount⟩
      split <;> decide
  | columnEquals column value =>
      unfold Reading.filter
      dsimp only
      rw [hFilter]
      dsimp only
      rw [hRead]
      exact ⟨_, next, rfl, hLow _ (by decide), hCount⟩

theorem readable_idIn (hSpare : Reading.matchHeight + spare ≤ Reading.maxHeight) {column : String}
    (hColumn : Text.isIdentifier column = true) (ids : List Sql.Value) :
    (Filter.idIn column ids).Readable config spare := by
  cases ids with
  | nil =>
      refine readable_of_template hSpare nofun rfl ?_ rfl
      exact Template.clean_singleton (Piece.clean_fixed (by simp [Text.NulFree]))
  | cons first rest =>
      refine readable_of_template hSpare nofun rfl ?_ rfl
      refine Template.Clean.append (Template.Clean.append (List.forall_mem_cons.mpr
        ⟨Piece.clean_name hColumn, Template.clean_singleton
          (Piece.clean_fixed (by simp [Text.NulFree]))⟩) ?_)
        (Template.clean_singleton (Piece.clean_fixed (by simp [Text.NulFree])))
      refine Template.Clean.joined (by simp [Text.NulFree]) fun template hMem => ?_
      obtain ⟨id, -, rfl⟩ := List.mem_map.mp hMem
      exact Template.clean_singleton (Piece.clean_value id)

theorem readable_columnEquals (hSpare : Reading.matchHeight + spare ≤ Reading.maxHeight)
    {column : String} (hColumn : Text.isIdentifier column = true) (value : Sql.Value) :
    (Filter.columnEquals column value).Readable config spare := by
  have hName : Template.Clean [.name column] := Template.clean_singleton (Piece.clean_name hColumn)
  have hNull : Template.Clean [.fixed " IS NULL"] :=
    Template.clean_singleton (Piece.clean_fixed (by simp [Text.NulFree]))
  have hEquals : Template.Clean [.fixed " = ", .value value] := List.forall_mem_cons.mpr
    ⟨Piece.clean_fixed (by simp [Text.NulFree]), Template.clean_singleton (Piece.clean_value value)⟩
  cases value with
  | null => exact readable_of_template hSpare nofun rfl (hName.append hNull) rfl
  | _ => exact readable_of_template hSpare nofun rfl (hName.append hEquals) rfl

/-- Every clause of a search for terms as they stand has one parameter. -/
theorem length_values_map_single {among : List Clause}
    (hPlain : ∀ clause ∈ among, Reading.IsPlain clause) :
    (((among.map Predicate.single).flatMap (Predicate.parts .sqlite config)).flatMap
      Part.values).length = among.length := by
  induction among with
  | nil => rfl
  | cons first rest ih =>
      obtain ⟨hFirst, hRest⟩ := List.forall_mem_cons.mp hPlain
      obtain ⟨field, term, rfl, -⟩ := hFirst
      rw [List.map_cons, List.flatMap_cons, List.flatMap_append, List.length_append, ih hRest,
        List.length_cons, Nat.add_comm]
      rfl

theorem readable_single {clause : Clause} (hPlain : Reading.IsPlain clause)
    (hSpare : Reading.matchHeight + spare ≤ Reading.maxHeight) :
    (Filter.search (.single clause)).Readable config spare := by
  refine ⟨rfl, fun reading hRoom => ?_⟩
  have hWeight : (Filter.search (.single clause)).weight config = 1 := by
    obtain ⟨field, term, rfl, -⟩ := hPlain
    rfl
  rw [hWeight] at hRoom ⊢
  obtain ⟨next, hNext, hCount⟩ := Reading.exists_single reading hPlain hRoom
  exact ⟨_, next, hNext, hSpare, hCount⟩

/-- Alternatives stand one upon the other, the first of them as high as two. -/
theorem readable_any {among : List Clause} (hPlain : ∀ clause ∈ among, Reading.IsPlain clause)
    (hNonempty : among ≠ []) (hFew : among.length + 2 + spare ≤ Reading.maxHeight) :
    (Filter.search (.any (among.map .single))).Readable config spare := by
  refine ⟨rfl, fun reading hRoom => ?_⟩
  have hWeight : (Filter.search (.any (among.map .single))).weight config = among.length := by
    rw [weight, Filter.parts, Predicate.parts_any, length_values_map_single hPlain]
    exact nofun
  rw [hWeight] at hRoom ⊢
  obtain ⟨start, hOpen, hStart⟩ :=
    @Reading.exists_fixed reading "(" (by simp [Text.NulFree]) (by omega)
  obtain ⟨last, hRead, hLast⟩ := Reading.exists_alternatives hPlain start none nofun
    (by simp only [Option.getD_none]; omega) (by omega)
  obtain ⟨next, hClose, hNext⟩ :=
    @Reading.exists_fixed last ")" (by simp [Text.NulFree]) (by omega)
  have hHeight : Reading.heightBehind none among.length = some (among.length + 2) := by
    obtain ⟨first, rest, rfl⟩ := List.exists_cons_of_ne_nil hNonempty
    simp only [Reading.heightBehind, List.length_cons, Option.getD_none]
    congr 1
    omega
  rw [hHeight] at hRead
  refine ⟨among.length + 2, next, ?_, hFew, by omega⟩
  rw [Reading.filter, Reading.predicate]
  simp only [bind, Except.bind, hOpen, hRead, hClose]
  rfl

/-- **A search for terms as they stand is readable** unless it has too many clauses. -/
theorem readable_search {among : List Clause} (hPlain : ∀ clause ∈ among, Reading.IsPlain clause)
    (hNonempty : among ≠ []) (hFew : among.length + 2 + spare ≤ Reading.maxHeight) :
    (Filter.search (.anyOf (among.map .single))).Readable config spare := by
  rw [Predicate.anyOf_map_single]
  match among with
  | [] => exact absurd rfl hNonempty
  | [clause] => exact readable_single (hPlain clause List.mem_cons_self) hFew
  | first :: second :: rest => exact readable_any hPlain hNonempty hFew

end Filter

/-! ## Statements -/

/-- Readable filters are read one after the other, if there are as many as are spared and one more.
The height of those before leaves room for those behind. -/
theorem Reading.exists_filters {config : Option String} {spare : Nat} {filters : List Filter}
    (hReadable : ∀ filter ∈ filters, filter.Readable config spare) :
    ∀ (reading : Reading) (before : Option Nat), filters.length ≤ spare + 1 →
      (∀ height ∈ before, height + filters.length ≤ maxHeight ∧ filters.length ≤ spare) →
      reading.count + (filters.map (Filter.weight config)).sum ≤ maxParameters →
      ∃ next, reading.filters before filters = .ok next := by
  induction filters with
  | nil =>
      intro reading before _ _ _
      exact ⟨reading, rfl⟩
  | cons first rest ih =>
      intro reading before hFew hBefore hRoom
      obtain ⟨hFirst, hRest⟩ := List.forall_mem_cons.mp hReadable
      rw [List.map_cons, List.sum_cons] at hRoom
      rw [List.length_cons] at hFew hBefore
      have hKeyword : Text.NulFree (if before.isSome then " AND " else " WHERE ") := by
        split <;> simp [Text.NulFree]
      obtain ⟨start, hStart, hStartCount⟩ := exists_fixed reading hKeyword (by omega)
      obtain ⟨height, last, hRead, hHeight, hLast⟩ := hFirst.read start (by omega)
      -- Behind others the filter makes the whole one higher, and one less follows.
      have hCombine : ∃ combined, combine before height = .ok combined ∧
          combined + rest.length ≤ maxHeight ∧ rest.length ≤ spare := by
        cases before with
        | none => exact ⟨height, rfl, by omega, by omega⟩
        | some before =>
            obtain ⟨hSpare, hLess⟩ := hBefore before rfl
            refine ⟨max before height + 1, if_neg (by omega), by omega, by omega⟩
      obtain ⟨combined, hCombine, hSpare, hLess⟩ := hCombine
      obtain ⟨next, hNext⟩ := ih hRest last (some combined) (by omega)
        (by rintro _ ⟨⟩; exact ⟨hSpare, hLess⟩) (by omega)
      refine ⟨next, ?_⟩
      have hNarrows : first = .search .always → False := by
        rintro rfl
        exact Bool.false_ne_true hFirst.narrows
      rw [Reading.filters]
      · simp only [bind, Except.bind, hStart, hRead, hCombine, hNext]
      · exact hNarrows

theorem Sql.clean_selectHead {select : Select} (hTable : Text.isIdentifier select.table = true)
    (hColumns : ∀ column ∈ select.columns, Text.isIdentifier column = true) :
    (selectHead select).Clean := by
  refine Template.Clean.append (Template.Clean.append
    (Template.clean_singleton (Piece.clean_fixed (by simp [Text.NulFree])))
    (Template.Clean.joined (by simp [Text.NulFree]) fun template hMem => ?_))
    (List.forall_mem_cons.mpr ⟨Piece.clean_fixed (by simp [Text.NulFree]),
      Template.clean_singleton (Piece.clean_name hTable)⟩)
  obtain ⟨column, hColumn, rfl⟩ := List.mem_map.mp hMem
  exact Template.clean_singleton (Piece.clean_name (hColumns column hColumn))

theorem sum_weight (config : Option String) (filters : List Filter) :
    (filters.map (Filter.weight config)).sum =
      ((filters.flatMap (Filter.parts .sqlite config)).flatMap Part.values).length := by
  induction filters with
  | nil => rfl
  | cons first rest ih =>
      rw [List.map_cons, List.sum_cons, ih, List.flatMap_cons, List.flatMap_append,
        List.length_append]
      rfl

/-- The parameters of a statement are those of its filters and of its order. -/
theorem Sql.Writer.length_params {config : Option String} {select : Select} {fragment : Fragment}
    (h : Writer.renderSelect ⟨.sqlite, config, []⟩ select = .ok fragment) :
    fragment.params.length = (select.filters.map (Filter.weight config)).sum +
      ((select.sorting.parts .sqlite).flatMap Part.values).length := by
  obtain ⟨template, hTemplate, hFragment⟩ := renderSelect_eq_ok h
  rw [hFragment, sum_weight, ← List.length_append, ← List.flatMap_append]
  exact congrArg List.length (Sql.values_renderSelect hTemplate)

/-- **A statement is taken** if its names are identifiers, its filters are readable and few, and it
has no more parameters than the database takes. -/
theorem Prepared.fault?_eq_none {config : Option String} {spare : Nat} {prepared : Prepared}
    (hTable : Text.isIdentifier prepared.select.table = true)
    (hColumns : ∀ column ∈ prepared.select.columns, Text.isIdentifier column = true)
    (hReadable : ∀ filter ∈ prepared.select.filters, filter.Readable config spare)
    (hFew : prepared.select.filters.length ≤ spare + 1)
    (hRendered : Sql.Writer.renderSelect ⟨.sqlite, config, []⟩ prepared.select =
      .ok prepared.fragment)
    (hParams : prepared.fragment.params.length ≤ Reading.maxParameters) :
    prepared.fault? = none := by
  have hTotal := Sql.Writer.length_params hRendered
  have hHead := Sql.clean_selectHead hTable hColumns
  obtain ⟨start, hStart, hCount⟩ := Reading.exists_template hHead
    ⟨prepared.fragment.sql, 0, 0⟩ (by rw [Sql.values_selectHead]; exact Nat.zero_le _)
  rw [Sql.values_selectHead] at hCount
  have hZero : start.count = 0 := hCount
  obtain ⟨next, hNext⟩ := Reading.exists_filters hReadable start none hFew nofun (by omega)
  rw [Prepared.fault?, hStart]
  simp only [bind, Except.bind, hNext]

/-! ## Too many parameters -/

namespace Reading

theorem piece_eq_ok {reading next : Reading} {piece : Piece} (h : reading.piece piece = .ok next) :
    next.count = reading.count + piece.values.length ∧ next.count ≤ maxParameters := by
  rw [Reading.piece] at h
  split at h
  · cases h
  next hRoom =>
    split at h
    · cases h
    · obtain rfl := Except.ok.inj h
      exact ⟨rfl, Nat.not_lt.mp hRoom⟩

theorem template_eq_ok {template : Template} :
    ∀ {reading next : Reading}, reading.count ≤ maxParameters →
      reading.template template = .ok next →
      next.count = reading.count + template.values.length ∧ next.count ≤ maxParameters := by
  induction template with
  | nil =>
      intro reading next hRoom h
      obtain rfl := Except.ok.inj h
      exact ⟨rfl, hRoom⟩
  | cons piece rest ih =>
      intro reading next hRoom h
      rw [Reading.template, List.foldlM_cons] at h
      obtain ⟨middle, hMiddle, h⟩ := bind_eq_ok.mp h
      obtain ⟨hCount, hLe⟩ := piece_eq_ok hMiddle
      obtain ⟨hTotal, hEnd⟩ := ih hLe h
      refine ⟨?_, hEnd⟩
      rw [hTotal, hCount, Template.values, Template.values, List.flatMap_cons, List.length_append,
        Nat.add_assoc]

end Reading

/-- **A statement with too many ids is not taken.** -/
theorem Prepared.fault?_ne_none_of_idIn {prepared : Prepared} {column : String}
    {ids : List Sql.Value} (hFilters : prepared.select.filters = [.idIn column ids])
    (hMany : Reading.maxParameters < ids.length) : prepared.fault? ≠ none := by
  intro h
  rw [fault?, hFilters] at h
  split at h
  next last hRead =>
    obtain ⟨start, hStart, hRead⟩ := bind_eq_ok.mp hRead
    rw [Reading.filters] at hRead
    · obtain ⟨front, hFront, hRead⟩ := bind_eq_ok.mp hRead
      obtain ⟨⟨height, behind⟩, hFilter, -⟩ := bind_eq_ok.mp hRead
      cases ids with
      | nil => cases hMany
      | cons first rest =>
          obtain ⟨next, hIds, -⟩ := bind_eq_ok.mp hFilter
          obtain ⟨hCount, hLe⟩ := Reading.template_eq_ok (Reading.piece_eq_ok hFront).2 hIds
          have hValues := (@Sql.holds_filterRendering .sqlite none
            (.idIn column (first :: rest)) _ rfl rfl).values
          rw [hValues] at hCount
          have hLength : (((Filter.idIn column (first :: rest)).parts .sqlite none).flatMap
              Part.values).length = (first :: rest).length := by
            simp [Filter.parts, Part.values, Sql.idComparison, Sql.Comparison.values]
          omega
    · rintro ⟨⟩
  · cases h

end FieldSearch
