import FieldSearch.Proofs.Database.Selection
import FieldSearch.Proofs.Pairs
import FieldSearch.Proofs.Query.Preparation
import FieldSearch.Proofs.Search.TermSet
import FieldSearch.Proofs.Store.Statement
import Mathlib

/-!
# What a request narrows a table to

A request narrows a table in three ways: by ids, by terms, and by the scope to
which the resolver confines it.  Each is said here of the cells of a row, without
a word about filters: the key is one of the ids, a term occurs in its field, a
column has the value of the scope.

The filters of a prepared selection are true for just the rows of which this can
be said.  `Expresses` is that relation between filters and a condition on rows,
and filters one behind the other express both of their conditions.

## Main results

* `expresses_idIn`, `expresses_search`, `expresses_columnEquals`: what single
  filters say of a row.
* `exists_expresses_of_prepareList`: what the filters of a prepared selection say.
-/

namespace FieldSearch

open Database (Cell Row Table)

/-! ## Conditions on rows -/

/-- One of the ids is the key of the row. -/
def Schema.HasId (schema : Schema) (ids : List RecordId) (row : Row) : Prop :=
  ∃ id ∈ ids, ∃ value, id.toValue? schema.key.type = some value ∧
    (schema.keyCell row).cmp (Cell.ofValue value) = .eq

/-- One of the terms occurs in its field, which is not null. -/
def Schema.HasTerm (schema : Schema) (terms : TermSet) (row : Row) : Prop :=
  ∃ field ∈ schema.searchable.fields, ∃ term text, terms.term? field = some term ∧
    schema.cell row field = .text text ∧ Cell.Occurs term text

/-- The column of the scope, if the record type has it, has the value of the scope. -/
def Schema.InScope (schema : Schema) (scope : Scope) (row : Row) : Prop :=
  ∀ column, schema.column? scope.column = some column →
    ∃ value, column.type.toValue? scope.value = some value ∧
      (schema.cell row column.name).cmp (Cell.ofValue value) = .eq

/-- The rows that a request is about, within a scope if there is one. -/
structure ListRequest.Selects (schema : Schema) (scope : Option Scope) (request : ListRequest)
    (row : Row) : Prop where
  ids : ∀ ids, request.ids = some ids → schema.HasId ids row
  terms : ∀ terms, request.terms = some terms → terms.hasTerms = true → schema.HasTerm terms row
  scope : ∀ confinement, scope = some confinement → schema.InScope confinement row

/-- How many conditions there are beside the terms: the ids, and the scope if the record type has
its column. -/
def ListRequest.companions (schema : Schema) (scope : Option Scope) (request : ListRequest) : Nat :=
  request.ids.isSome.toNat +
    (scope.any fun confinement => (schema.column? confinement.column).isSome).toNat

theorem ListRequest.companions_le (schema : Schema) (scope : Option Scope)
    (request : ListRequest) : request.companions schema scope ≤ 2 :=
  Nat.add_le_add (Bool.toNat_le _) (Bool.toNat_le _)

/-- The terms have no NUL, and a database can look for them: the patterns that they make are not too
long, and their choice is so low that the other conditions can stand beside it. -/
structure TermSet.Searchable (fields : FieldSet) (companions : Nat) (terms : TermSet) : Prop where
  nulFree : ∀ field term, terms.term? field = some term → Text.NulFree term
  short : ∀ field term, terms.term? field = some term →
    (Text.lowercase (Text.Like.containing term)).utf8ByteSize ≤ Cell.maxPatternBytes
  few : (Predicate.containing fields terms).length + 2 + companions ≤ Reading.maxHeight

/-- The modifier that confines requests to a scope, if there is one. -/
def Modifier.within : Option Scope → Modifier
  | none => .keep
  | some confinement => .scope confinement

/-! ## Filters that express conditions -/

/-- The filters are true for the rows that meet a condition.  They can be written, evaluated and
read beside others, and those that mention no column hold of nothing. -/
structure Database.Table.Expresses (table : Table) (config : Option String) (spare : Nat)
    (filters : List Filter) (meets : Row → Prop) : Prop where
  accepts : ∀ row ∈ table.rows,
    (∀ filter ∈ filters, filter.Accepts .sqlite config (table.judgement row)) ↔ meets row
  short : ∀ filter ∈ filters, filter.Short
  settled : table.Settled filters
  writable : ∀ filter ∈ filters, filter.Writable
  readable : ∀ filter ∈ filters, filter.Readable config spare

namespace Database.Table

variable {table : Table} {config : Option String} {spare : Nat}

theorem expresses_nil : table.Expresses config spare [] fun _ => True where
  accepts := by simp
  short := nofun
  settled := nofun
  writable := nofun
  readable := nofun

/-- Filters one behind the other express both conditions. -/
theorem Expresses.append {filters others : List Filter} {meets also : Row → Prop}
    (hFilters : table.Expresses config spare filters meets)
    (hOthers : table.Expresses config spare others also) :
    table.Expresses config spare (filters ++ others) fun row => meets row ∧ also row where
  accepts row hRow := by
    rw [List.forall_mem_append, hFilters.accepts row hRow, hOthers.accepts row hRow]
  short := List.forall_mem_append.mpr ⟨hFilters.short, hOthers.short⟩
  settled := List.forall_mem_append.mpr ⟨hFilters.settled, hOthers.settled⟩
  writable := List.forall_mem_append.mpr ⟨hFilters.writable, hOthers.writable⟩
  readable := List.forall_mem_append.mpr ⟨hFilters.readable, hOthers.readable⟩

theorem Expresses.congr {filters : List Filter} {meets also : Row → Prop}
    (hFilters : table.Expresses config spare filters meets) (hIff : ∀ row, meets row ↔ also row) :
    table.Expresses config spare filters also :=
  { hFilters with accepts := fun row hRow => (hFilters.accepts row hRow).trans (hIff row) }

/-- A single filter that mentions a column or holds of nothing. -/
theorem expresses_singleton {filter : Filter} {meets : Row → Prop}
    (hAccepts : ∀ row ∈ table.rows,
      filter.Accepts .sqlite config (table.judgement row) ↔ meets row)
    (hShort : filter.Short)
    (hSettled : table.filterRank filter ≠ 0 ∨ ∃ column, filter = .idIn column [])
    (hWritable : filter.Writable) (hReadable : filter.Readable config spare) :
    table.Expresses config spare [filter] meets where
  accepts row hRow := by rw [List.forall_mem_singleton, hAccepts row hRow]
  short := List.forall_mem_singleton.mpr hShort
  settled := List.forall_mem_singleton.mpr fun hRank => hSettled.resolve_left fun hNe => hNe hRank
  writable := List.forall_mem_singleton.mpr hWritable
  readable := List.forall_mem_singleton.mpr hReadable

end Database.Table

namespace Schema

variable {schema : Schema} {table : Table} (config : Option String) {spare : Nat}

theorem HasTable.columnRank_ne_zero (hTable : schema.HasTable table) {column : Column}
    (hMem : column ∈ schema.columns) : table.columnRank column.name ≠ 0 := by
  rw [Table.columnRank, hTable.resolve_column hMem]
  dsimp only
  split <;> omega

/-- **Ids let the rows through that have one of them for a key.** -/
theorem expresses_idIn (hSpare : Reading.matchHeight + spare ≤ Reading.maxHeight)
    (hValid : schema.Valid) (hTable : schema.HasTable table) (hTyped : schema.Typed table)
    {ids : List RecordId} {values : List Sql.Value}
    (hValues : List.Forall₂ (fun id value => id.toValue? schema.key.type = some value) ids values) :
    table.Expresses config spare [.idIn schema.key.name values] (schema.HasId ids) := by
  refine Table.expresses_singleton (fun row hRow => ?_) trivial ?_ trivial
    (Filter.readable_idIn hSpare (hValid.columnNames _ hValid.key_mem) values)
  · have hEquals : ∀ (id : RecordId) value, id.toValue? schema.key.type = some value →
        ((table.judgement row).equals schema.key.name value = some true ↔
          (schema.keyCell row).cmp (Cell.ofValue value) = .eq) := by
      intro id value hValue
      obtain ⟨hFits, hNull⟩ := Cell.fits_ofValue_id hValue
      exact equalsParameter_eq_true hValid hTable hTyped hRow hValid.key_mem hFits
        (mt Cell.ofValue_eq_null.mp hNull)
    constructor
    · rintro ⟨value, hMem, hTrue⟩
      obtain ⟨id, hId, hValue⟩ := exists_of_mem_right hValues hMem
      exact ⟨id, hId, value, hValue, (hEquals id value hValue).mp hTrue⟩
    · rintro ⟨id, hId, value, hValue, hEq⟩
      obtain ⟨other, hMem, hOther⟩ := exists_of_mem_left hValues hId
      obtain rfl := Option.some.inj (hValue.symm.trans hOther)
      exact ⟨value, hMem, (hEquals id value hValue).mpr hEq⟩
  · cases values with
    | nil => exact .inr ⟨_, rfl⟩
    | cons first rest => exact .inl (hTable.columnRank_ne_zero hValid.key_mem)

/-- **A scope lets the rows through that have its value in its column.** -/
theorem expresses_columnEquals (hSpare : Reading.matchHeight + spare ≤ Reading.maxHeight)
    (hValid : schema.Valid) (hTable : schema.HasTable table) (hTyped : schema.Typed table)
    {column : Column} (hMem : column ∈ schema.columns) {json : Json} {value : Sql.Value}
    (hValue : column.type.toValue? json = some value) :
    table.Expresses config spare [.columnEquals column.name value] fun row =>
      (schema.cell row column.name).cmp (Cell.ofValue value) = .eq := by
  refine Table.expresses_singleton (fun row hRow => ?_) trivial
    (.inl (hTable.columnRank_ne_zero hMem)) trivial
    (Filter.readable_columnEquals hSpare (hValid.columnNames column hMem) value)
  have hFits := Cell.fits_ofValue hValue
  by_cases hNull : value = .null
  · subst hNull
    have hIsNull : (table.judgement row).isNull column.name = true ↔
        schema.cell row column.name = .null := by
      have hValue : (table.judgement row).isNull column.name =
          (schema.cell row column.name == .null) := by
        rw [← hTable.value_column hMem]
        rfl
      rw [hValue, beq_iff_eq]
    exact hIsNull.trans Cell.cmp_null_eq_eq.symm
  · have hEquals := equalsParameter_eq_true hValid hTable hTyped hRow hMem hFits
      (mt Cell.ofValue_eq_null.mp hNull)
    cases value with
    | null => exact absurd rfl hNull
    | _ => exact hEquals

theorem accepts_anyOf_map_single {judgement : Sql.Judgement} (among : List Clause) :
    (Predicate.anyOf (among.map .single)).Accepts .sqlite config judgement ↔
      ∃ clause ∈ among, (clause.comparison .sqlite config).truth judgement = some true := by
  rw [Sql.accepts_iff_holds, Predicate.holds_anyOf_map_single]

/-- A clause is true for the rows in which its term occurs. -/
theorem truth_contains (hValid : schema.Valid) (hTable : schema.HasTable table)
    (hRows : schema.HasRows table) {row : Row} (hRow : row ∈ table.rows) {field term : String}
    (hField : field ∈ schema.searchable.fields) (hTerm : Text.NulFree term)
    (hShort : (Text.lowercase (Text.Like.containing term)).utf8ByteSize ≤ Cell.maxPatternBytes) :
    ((Clause.contains field term).comparison .sqlite config).truth (table.judgement row) =
        some true ↔
      ∃ text, schema.cell row field = .text text ∧ Cell.Occurs term text := by
  obtain ⟨column, hMem, rfl, hText⟩ := hValid.searchable field hField
  have hFits := hRows.typed.fits_cell hValid hRow hMem
  rw [hText] at hFits
  rw [Database.truth_contains, hTable.value_column hMem]
  cases hCell : schema.cell row column.name with
  | null =>
      rw [Cell.matchesPattern?_of_short _ hShort]
      exact iff_of_false nofun (by simp)
  | text text =>
      obtain ⟨found, hMatch, hFound⟩ :=
        Cell.matchesPattern?_text hTerm (hRows.nulFree_cell hRow hCell) hShort
      rw [hMatch, Option.getD_some, Option.some.injEq, hFound]
      simp
  | _ =>
      rw [hCell] at hFits
      cases hFits

/-- The clauses of a search are on columns, whose names are identifiers. -/
theorem isPlain_of_mem_containing (hValid : schema.Valid) {terms : TermSet} {clause : Clause}
    (hMem : clause ∈ Predicate.containing schema.searchable terms) : Reading.IsPlain clause := by
  obtain ⟨field, hField, term, -, rfl⟩ := Predicate.mem_containing.mp hMem
  obtain ⟨column, hColumn, rfl, -⟩ := hValid.searchable field hField
  exact ⟨_, term, rfl, hValid.columnNames column hColumn⟩

/-- A search mentions a column, if it has a clause. -/
theorem filterRank_search_ne_zero (hValid : schema.Valid) (hTable : schema.HasTable table)
    {terms : TermSet} {field term : String}
    (hClause : .contains field term ∈ Predicate.containing schema.searchable terms) :
    table.filterRank (.search (.anyOf ((Predicate.containing schema.searchable terms).map
      .single))) ≠ 0 := by
  obtain ⟨_, hField, _, -, hSame⟩ := Predicate.mem_containing.mp hClause
  cases hSame
  obtain ⟨column, hMem, rfl, -⟩ := hValid.searchable field hField
  have hNotAll : ((Predicate.anyOf ((Predicate.containing schema.searchable terms).map
      .single)).clauses.all fun clause => table.isLiteral clause.field) = false := by
    rw [Predicate.clauses_anyOf_map_single, List.all_eq_false]
    refine ⟨_, hClause, ?_⟩
    rw [Table.isLiteral, Clause.field, hTable.resolve_column hMem]
    exact Bool.false_ne_true
  rw [Table.filterRank, hNotAll]
  exact nofun

/-- **Terms let the rows through in which one of them occurs.** -/
theorem expresses_search (hValid : schema.Valid) (hTable : schema.HasTable table)
    (hRows : schema.HasRows table) {terms : TermSet}
    (hSearchable : terms.Searchable schema.searchable spare)
    (hChecked : schema.searchable.check terms = .ok ()) (hHasTerms : terms.hasTerms = true) :
    table.Expresses config spare
      [.search (.anyOf (Predicate.searched schema.searchable terms .generic))]
      (schema.HasTerm terms) := by
  obtain ⟨field, hNamed, hSome⟩ := TermSet.hasTerms_iff.mp hHasTerms
  obtain ⟨term, hTerm⟩ := Option.isSome_iff_exists.mp hSome
  have hField : field ∈ schema.searchable.fields := by
    simpa [FieldSet.contains] using FieldSet.check_eq_ok_iff.mp hChecked field hNamed
  have hClause : .contains field term ∈ Predicate.containing schema.searchable terms :=
    Predicate.mem_containing.mpr ⟨field, hField, term, hTerm, rfl⟩
  rw [Predicate.searched_generic]
  refine Table.expresses_singleton (fun row hRow => ?_) (fun clause hMem => ?_)
    (.inl (filterRank_search_ne_zero hValid hTable hClause))
    (Predicate.writable_anyOf_map_single _)
    (Filter.readable_search (fun _ => isPlain_of_mem_containing hValid)
      (List.ne_nil_of_mem hClause) hSearchable.few)
  · refine (accepts_anyOf_map_single config _).trans ?_
    have hTruth : ∀ field ∈ schema.searchable.fields, ∀ term, terms.term? field = some term →
        (((Clause.contains field term).comparison .sqlite config).truth (table.judgement row) =
            some true ↔
          ∃ text, schema.cell row field = .text text ∧ Cell.Occurs term text) :=
      fun field hField term hTerm => truth_contains config hValid hTable hRows hRow hField
        (hSearchable.nulFree field term hTerm) (hSearchable.short field term hTerm)
    constructor
    · rintro ⟨clause, hMem, hTrue⟩
      obtain ⟨field, hField, term, hTerm, rfl⟩ := Predicate.mem_containing.mp hMem
      obtain ⟨text, hText, hOccurs⟩ := (hTruth field hField term hTerm).mp hTrue
      exact ⟨field, hField, term, text, hTerm, hText, hOccurs⟩
    · rintro ⟨field, hField, term, text, hTerm, hText, hOccurs⟩
      exact ⟨_, Predicate.mem_containing.mpr ⟨field, hField, term, hTerm, rfl⟩,
        (hTruth field hField term hTerm).mpr ⟨text, hText, hOccurs⟩⟩
  · rw [Predicate.clauses_anyOf_map_single] at hMem
    obtain ⟨field, -, term, hTerm, rfl⟩ := Predicate.mem_containing.mp hMem
    exact hSearchable.short field term hTerm

end Schema

/-! ## The filters of a request -/

namespace Resolver

variable {schema : Schema} {table : Table} (config : Option String) {spare : Nat}

/-- The selection is the other one with so many filters more at most, which express a condition. -/
def Narrows (spare : Nat) (table : Table) (select narrowed : Select) (most : Nat)
    (meets : Row → Prop) : Prop :=
  ∃ filters, narrowed = { select with filters := select.filters ++ filters } ∧
    filters.length ≤ most ∧ table.Expresses config spare filters meets

theorem narrows_self {select : Select} {most : Nat} {meets : Row → Prop}
    (hMeets : ∀ row, meets row) : Narrows config spare table select select most meets :=
  ⟨[], by rw [List.append_nil], Nat.zero_le most,
    Table.expresses_nil.congr fun row => iff_of_true trivial (hMeets row)⟩

theorem narrows_withIds (hSpare : Reading.matchHeight + spare ≤ Reading.maxHeight)
    (hValid : schema.Valid) (hTable : schema.HasTable table) (hRows : schema.HasRows table)
    {select narrowed : Select} {ids : Option (List RecordId)}
    (h : withIds schema select ids = .ok narrowed) :
    Narrows config spare table select narrowed ids.isSome.toNat fun row =>
      ∀ given, ids = some given → schema.HasId given row := by
  rcases withIds_eq_ok h with ⟨rfl, rfl⟩ | ⟨given, values, rfl, hValues, rfl⟩
  · exact narrows_self config fun row => nofun
  · have hExpresses := Schema.expresses_idIn config hSpare hValid hTable hRows.typed hValues
    exact ⟨_, rfl, Nat.le_refl 1, hExpresses.congr fun row => by simp⟩

theorem narrows_withTerms (hValid : schema.Valid) (hTable : schema.HasTable table)
    (hRows : schema.HasRows table) {resolver : Resolver}
    (hStrategy : resolver.compiler.strategy = .generic) {select narrowed : Select}
    {terms : Option TermSet} (hSearchable : ∀ given, terms = some given →
      given.Searchable schema.searchable spare)
    (h : (resolver.withTerms schema select terms).outcome = .ok narrowed) :
    Narrows config spare table select narrowed 1 fun row =>
      ∀ given, terms = some given → given.hasTerms = true → schema.HasTerm given row := by
  rcases withTerms_eq_ok h with ⟨rfl, rfl⟩ | ⟨given, compiled, rfl, hCompiled, rfl⟩
  · exact narrows_self config fun row => nofun
  · have hPredicate := hCompiled.predicate
    have hSorting := hCompiled.sorting
    rw [hStrategy] at hPredicate hSorting
    rw [withSearch, hSorting]
    cases hTerms : given.hasTerms with
    | false =>
        rw [hTerms, if_neg Bool.false_ne_true] at hPredicate
        rw [hPredicate]
        exact narrows_self config fun row other hOther => by simp [← Option.some.inj hOther, hTerms]
    | true =>
        rw [hTerms, if_pos rfl] at hPredicate
        have hNotAlways : compiled.predicate.isAlways = false := by
          rw [hPredicate, Predicate.searched_generic]
          exact Predicate.isAlways_anyOf_map_single _
        rw [hNotAlways, hPredicate]
        have hExpresses := Schema.expresses_search config hValid hTable hRows
          (hSearchable given rfl) hCompiled.checked hTerms
        exact ⟨_, rfl, Nat.le_refl 1, hExpresses.congr fun row => by simp [hTerms]⟩

theorem narrows_modify (hSpare : Reading.matchHeight + spare ≤ Reading.maxHeight)
    (hValid : schema.Valid) (hTable : schema.HasTable table) (hRows : schema.HasRows table)
    {scope : Option Scope} {select narrowed : Select}
    (h : (Modifier.within scope).modify schema select = .ok narrowed) :
    Narrows config spare table select narrowed
      (scope.any fun confinement => (schema.column? confinement.column).isSome).toNat fun row =>
      ∀ confinement, scope = some confinement → schema.InScope confinement row := by
  cases scope with
  | none =>
      obtain rfl := Except.ok.inj h
      exact narrows_self config fun row => nofun
  | some confinement =>
      rcases Scope.apply_eq_ok h with ⟨hColumn, rfl⟩ | ⟨column, value, hColumn, hFits, rfl⟩
      · refine narrows_self config fun row other hOther column hSome => ?_
        obtain rfl := Option.some.inj hOther
        rw [hColumn] at hSome
        cases hSome
      · have hMem : column ∈ schema.columns := List.mem_of_find?_eq_some hColumn
        have hName : column.name = confinement.column := by simpa using List.find?_some hColumn
        have hExpresses :=
          Schema.expresses_columnEquals config hSpare hValid hTable hRows.typed hMem hFits
        rw [hName] at hExpresses
        refine ⟨_, rfl, by simp [hColumn], hExpresses.congr fun row => ?_⟩
        constructor
        · intro hEq other hOther found hFound
          obtain rfl := Option.some.inj hOther
          obtain rfl := Option.some.inj (hColumn.symm.trans hFound)
          exact ⟨value, hFits, hName ▸ hEq⟩
        · intro hAll
          obtain ⟨found, hFound, hEq⟩ := hAll confinement rfl column hColumn
          obtain rfl := Option.some.inj (hFits.symm.trans hFound)
          exact hName ▸ hEq

/-- **A prepared request selects, by primary key, the rows that it is about.** -/
theorem exists_expresses_of_prepareList (hValid : schema.Valid) (hTable : schema.HasTable table)
    (hRows : schema.HasRows table) {resolver : Resolver} {scope : Option Scope}
    (hStrategy : resolver.compiler.strategy = .generic)
    (hModifier : resolver.modifier = .within scope) {request : ListRequest}
    (hSearchable : ∀ terms, request.terms = some terms →
      terms.Searchable schema.searchable (request.companions schema scope)) {prepared : Prepared}
    (h : (resolver.prepareList schema request).outcome = .ok prepared) :
    ∃ page filters, (request.page resolver.config).outcome = .ok page ∧
      prepared.select =
        { (Select.ofSchema schema).page page.limit page.offset with filters := filters } ∧
      resolver.compiler.writer.renderSelect prepared.select = .ok prepared.fragment ∧
      filters.length ≤ request.companions schema scope + 1 ∧
      table.Expresses config (request.companions schema scope) filters
        (request.Selects schema scope) := by
  obtain ⟨-, page, base, searched, hPage, hIds, hTerms, hFinish⟩ := prepareList_eq_ok h
  obtain ⟨hModified, hRendered⟩ := finish_eq_ok hFinish
  rw [hModifier] at hModified
  have hSpare : Reading.matchHeight + request.companions schema scope ≤ Reading.maxHeight :=
    (Nat.add_le_add_left (request.companions_le schema scope) _).trans (by decide)
  obtain ⟨idFilters, rfl, hIdLength, hIdFilters⟩ :=
    narrows_withIds config hSpare hValid hTable hRows hIds
  obtain ⟨termFilters, rfl, hTermLength, hTermFilters⟩ :=
    narrows_withTerms config hValid hTable hRows hStrategy hSearchable hTerms
  obtain ⟨scopeFilters, hSelect, hScopeLength, hScopeFilters⟩ :=
    narrows_modify config hSpare hValid hTable hRows hModified
  have hLength : (([] ++ idFilters) ++ termFilters ++ scopeFilters).length ≤
      request.companions schema scope + 1 := by
    simp only [List.length_append, List.length_nil, ListRequest.companions]
    omega
  refine ⟨page, _, hPage, hSelect, hRendered, hLength, ?_⟩
  refine ((hIdFilters.append hTermFilters).append hScopeFilters).congr fun row => ?_
  constructor
  · rintro ⟨⟨hId, hTerm⟩, hScope⟩
    exact ⟨hId, hTerm, hScope⟩
  · rintro ⟨hId, hTerm, hScope⟩
    exact ⟨⟨hId, hTerm⟩, hScope⟩

end Resolver
end FieldSearch
