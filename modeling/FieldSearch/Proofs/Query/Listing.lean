import FieldSearch.Proofs.Query.Narrowing
import FieldSearch.Proofs.Query.Page
import FieldSearch.Proofs.Query.Statement
import Mathlib

/-!
# What a list request comes to

A list request against a database gives the records of the rows that it is about,
in rising order of their keys, cut to its page.  The filters of the prepared
selection are true for these rows and no others, the database takes the statement
and cuts the page out of the rows in their order, and each row is read as its
record.  The text of the statement says the same thing to whoever reads it.

Two things stand between a request and what it says.  A database reads two code
points that stand for no character as a third, so that the three are the same to
it.  And it has limits: on the parameters of a statement, on the height of a
condition and on the length of a pattern.

## Main results

* `Lists.eq`: a table and a condition determine the rows in their order.
* `fetchRecords_eq_ok`: the records of a statement that the database takes.
* `list_eq_page`: the records of a list request.
* `list_of_noncharacter`: a record that is listed though its texts do not have the
  term, and one that is not listed for the limits of the database.
-/

namespace FieldSearch

open Database (Cell Row Table)

/-! ## Rows in order -/

/-- The rows of the table that meet a condition, in rising order of their keys. -/
structure Schema.Lists (schema : Schema) (table : Table) (meets : Row → Prop)
    (rows : List Row) : Prop where
  rising : rows.Pairwise fun left right =>
    (schema.keyCell left).cmp (schema.keyCell right) = .lt
  mem_iff : ∀ row, row ∈ rows ↔ row ∈ table.rows ∧ meets row

/-- **A table and a condition determine the rows in their order.** -/
theorem Schema.Lists.eq {schema : Schema} {table : Table} {meets : Row → Prop}
    {rows others : List Row} (hValid : schema.Valid) (hRows : schema.HasRows table)
    (hLists : schema.Lists table meets rows) (hOthers : schema.Lists table meets others) :
    rows = others := by
  have hFits : ∀ row ∈ table.rows, schema.key.type.Fits (schema.keyCell row) :=
    fun row hRow => hRows.typed.fits_cell hValid hRow hValid.key_mem
  have hNodup : ∀ {listed}, schema.Lists table meets listed → listed.Nodup := by
    intro listed h
    refine h.rising.imp_of_mem fun {left right} hLeft _ hLess hSame => ?_
    subst hSame
    have hSwap := Cell.cmp_eq_swap (hFits left ((h.mem_iff left).mp hLeft).1)
      (hFits left ((h.mem_iff left).mp hLeft).1)
    rw [hLess] at hSwap
    cases hSwap
  have hPerm : rows.Perm others := (List.perm_ext_iff_of_nodup (hNodup hLists) (hNodup hOthers)).mpr
    fun row => (hLists.mem_iff row).trans (hOthers.mem_iff row).symm
  refine hPerm.eq_of_pairwise (fun left right hLeft hRight hLess hGreater => ?_) hLists.rising
    hOthers.rising
  have hSwap := Cell.cmp_eq_swap (hFits left ((hLists.mem_iff left).mp hLeft).1)
    (hFits right ((hOthers.mem_iff right).mp hRight).1)
  rw [hLess, hGreater] at hSwap
  cases hSwap

/-- **What a selection by primary key gives**, if its filters express a condition. -/
theorem Schema.exists_lists_of_expresses {schema : Schema} {table : Table}
    {config : Option String} {spare : Nat} {meets : Row → Prop} (hValid : schema.Valid)
    (hTable : schema.HasTable table) (hRows : schema.HasRows table) {select : Select}
    (hExpresses : table.Expresses config spare select.filters meets)
    (hSorting : select.sorting = .byColumn schema.primaryKey) {limit : Int}
    (hLimit : select.limit = some limit) (hNonneg : 0 ≤ limit) :
    ∃ rows, schema.Lists table meets rows ∧
      table.select select = .ok ((rows.drop select.offset.toNat).take limit.toNat) := by
  classical
  let passes : Row → Bool := fun row =>
    decide (∀ filter ∈ select.filters, filter.Accepts .sqlite config (table.judgement row))
  have hMem : ∀ row, row ∈ (table.sorted select).filter passes ↔
      row ∈ table.rows ∧ meets row := by
    intro row
    rw [List.mem_filter, (table.sorted_perm select).mem_iff]
    refine and_congr_right fun hRow => ?_
    rw [decide_eq_true_iff]
    exact hExpresses.accepts row hRow
  refine ⟨(table.sorted select).filter passes,
    ⟨(hRows.pairwise_sorted hValid hTable hSorting).filter _, hMem⟩, ?_⟩
  refine Table.select_eq_ok hExpresses.short hExpresses.settled ?_ fun row => decide_eq_true_iff
  rw [hLimit, Int.toNat_of_nonneg hNonneg]

/-! ## Statements that are carried out -/

/-- **The records of a statement that the database takes**, on the table of its record type. -/
theorem FileStore.fetchRecords_eq_ok {files : FileStore} {schema : Schema} {table : Table}
    {prepared : Prepared} {rows : List Row} (hValid : schema.Valid)
    (hTable : schema.HasTable table) (hTyped : schema.Typed table)
    (hReachable : files.isReachable = true) (hTaken : prepared.fault? = none)
    (hFound : files.database.table? prepared.select.table = some table)
    (hColumns : prepared.select.columns = schema.columnNames)
    (hSelect : table.select prepared.select = .ok rows) (hMem : ∀ row ∈ rows, row ∈ table.rows) :
    files.fetchRecords schema prepared = .ok (rows.map schema.recordOf) := by
  have hLength : prepared.select.columns.length ≤ Database.maxColumns := by
    rw [hColumns, Schema.columnNames, List.length_map]
    exact hTable.length_le
  have hRead : (rows.map (table.project schema.columnNames)).mapM
      (readRow 0 .empty schema.columns) = .ok (rows.map schema.recordOf) := by
    rw [mapM_eq_ok, List.forall₂_map_left_iff, List.forall₂_map_right_iff, List.forall₂_same]
    exact fun row hRow => Schema.readRow_project hValid hTable hTyped (hMem row hRow)
  have hKnown : files.knowledge.select prepared.select =
      .ok (rows.map (table.project schema.columnNames)) := by
    rw [Database.Knowledge.select_of_table? hFound hLength, hSelect, hColumns]
    rfl
  unfold fetchRecords
  rw [hReachable, hTaken, hKnown]
  simp only [Bool.not_true, Bool.false_eq_true, if_false, bind, Except.bind, Except.mapError, hRead]

namespace Resolver

theorem outcome_list_file {resolver : Resolver} {files : FileStore} {schema : Schema}
    {request : ListRequest} {prepared : Prepared}
    (h : (resolver.prepareList schema request).outcome = .ok prepared) :
    (resolver.list (.file files) schema request).1.outcome =
      files.fetchRecords schema prepared := by
  have hFetch : (fetch (.file files) schema (resolver.prepareList schema request)).1.outcome =
      files.fetchRecords schema prepared := by
    rw [fetch, h]
    show (files.fetch schema prepared).outcome = _
    rw [FileStore.fetch, Logged.outcome_bind, Logged.outcome_of]
    cases files.fetchRecords schema prepared <;> rfl
  rw [list, Logged.outcome_bind, hFetch]
  cases files.fetchRecords schema prepared <;> rfl

/-- A resolver for a database looks for terms as they stand. -/
theorem create_file_eq_ok {files : FileStore} {config : SearchConfig} {resolver : Resolver}
    (h : (create (.file files) config).outcome = .ok resolver) :
    resolver = ⟨config, ⟨.generic, .sqlite, config.textSearchConfig⟩, .keep⟩ := by
  obtain ⟨-, -, h⟩ := Logged.outcome_bind_eq_ok.mp h
  obtain ⟨compiler, hCompiler, h⟩ := Logged.outcome_bind_eq_ok.mp h
  obtain rfl := Except.ok.inj h
  rw [Logged.outcome_mapError, mapError_eq_ok] at hCompiler
  obtain ⟨strategy, hStrategy, hCompiler⟩ := Logged.outcome_bind_eq_ok.mp hCompiler
  obtain rfl := Except.ok.inj hCompiler
  have hGeneric : strategy = .generic := by
    match hChoice : config.strategy with
    | .auto | .fixed .generic =>
        rw [hChoice] at hStrategy
        exact (Except.ok.inj hStrategy).symm
    | .fixed .fullTextPrefix =>
        rw [hChoice] at hStrategy
        cases hStrategy
  rw [hGeneric]
  rfl

/-! ## Records and text of a request -/

section

variable {schema : Schema} {table : Table} {config : SearchConfig} {scope : Option Scope}
  {request : ListRequest} {prepared : Prepared}

/-- The resolver of a configuration for a database, within a scope if there is one. -/
def forFile (config : SearchConfig) (scope : Option Scope) : Resolver :=
  ⟨config, ⟨.generic, .sqlite, config.textSearchConfig⟩, .within scope⟩

/-- **The records that are listed** are those of the rows that the request is about, cut to the
page. -/
theorem exists_list_eq_ok (hValid : schema.Valid) (hTable : schema.HasTable table)
    (hRows : schema.HasRows table) {files : FileStore} (hReachable : files.isReachable = true)
    (hFound : files.database.table? schema.table = some table)
    (hSearchable : ∀ terms, request.terms = some terms →
      terms.Searchable schema.searchable (request.companions schema scope))
    (hPrepared : ((forFile config scope).prepareList schema request).outcome = .ok prepared)
    (hParams : prepared.fragment.params.length ≤ Reading.maxParameters) :
    ∃ page rows, (request.page config).outcome = .ok page ∧
      schema.Lists table (request.Selects schema scope) rows ∧
      ((forFile config scope).list (.file files) schema request).1.outcome =
        .ok (((rows.drop page.offset.toNat).take page.limit.toNat).map schema.recordOf) := by
  -- What was prepared is a page of the records, with filters that express what is asked for.
  obtain ⟨page, filters, hPage, hSelect, hRendered, hFew, hExpresses⟩ :=
    exists_expresses_of_prepareList config.textSearchConfig hValid hTable hRows rfl rfl hSearchable
      hPrepared
  obtain ⟨select, fragment⟩ := prepared
  obtain rfl : select = _ := hSelect
  obtain ⟨rows, hLists, hTaking⟩ := @Schema.exists_lists_of_expresses schema table
    config.textSearchConfig _ _ hValid hTable hRows
    { (Select.ofSchema schema).page page.limit page.offset with filters } hExpresses rfl _ rfl
    (ListRequest.page_nonneg hPage).1
  have hTaken : Prepared.fault?
      ⟨{ (Select.ofSchema schema).page page.limit page.offset with filters }, fragment⟩ = none := by
    refine Prepared.fault?_eq_none hValid.table (fun column hColumn => ?_) hExpresses.readable hFew
      hRendered hParams
    obtain ⟨found, hMem, rfl⟩ := List.mem_map.mp hColumn
    exact hValid.columnNames found hMem
  refine ⟨page, rows, hPage, hLists, ?_⟩
  rw [outcome_list_file hPrepared]
  refine FileStore.fetchRecords_eq_ok hValid hTable hRows.typed hReachable hTaken hFound rfl hTaking
    fun row hRow => ?_
  exact ((hLists.mem_iff row).mp (List.mem_of_mem_drop (List.mem_of_mem_take hRow))).1

/-- The statement asks for a page of the rows that meet a condition: the columns of the record type,
from its table, by the primary key alone. -/
structure Asks (schema : Schema) (table : Table) (meets : Row → Prop) (page : Page)
    (statement : Sql.Statement) : Prop where
  columns : statement.columns = schema.columnNames
  source : statement.table = schema.table
  condition : ∀ row ∈ table.rows,
    (∀ inner ∈ statement.condition, inner.truth (table.judgement row) = some true) ↔ meets row
  keys : statement.keys = [⟨.column schema.primaryKey, .ascending, false⟩]
  limit : statement.limit = some page.limit
  offset : statement.offset = if 0 < page.offset then some page.offset else none

/-- **What the text of the statement asks for** are the rows that the request is about. -/
theorem exists_asks_of_prepareList (hValid : schema.Valid) (hTable : schema.HasTable table)
    (hRows : schema.HasRows table)
    (hSearchable : ∀ terms, request.terms = some terms →
      terms.Searchable schema.searchable (request.companions schema scope))
    (hPrepared : ((forFile config scope).prepareList schema request).outcome = .ok prepared) :
    ∃ page statement, (request.page config).outcome = .ok page ∧
      prepared.fragment.read? .sqlite = some statement ∧
      Asks schema table (request.Selects schema scope) page statement := by
  obtain ⟨page, filters, hPage, hSelect, hRendered, -, hExpresses⟩ :=
    exists_expresses_of_prepareList config.textSearchConfig hValid hTable hRows rfl rfl hSearchable
      hPrepared
  rw [hSelect] at hRendered
  have hColumns : schema.columnNames ≠ [] := by
    rw [Schema.columnNames, Ne, List.map_eq_nil_iff]
    exact hValid.columns_ne_nil
  obtain ⟨condition, hRead, hTruth⟩ := Sql.read?_of_renderSelect hColumns
    ⟨hExpresses.writable, List.forall_mem_singleton.mpr trivial⟩ hRendered
  refine ⟨page, _, hPage, hRead, rfl, rfl, fun row hRow => ?_, rfl, rfl, rfl⟩
  exact (hTruth (table.judgement row)).trans (hExpresses.accepts row hRow)

end

/-! ## Too many ids -/

/-- A request for ids alone is prepared, if they fit the primary key. -/
theorem exists_prepareList_of_ids {resolver : Resolver} {schema : Schema}
    (hModifier : resolver.modifier = .keep) {ids : List RecordId} {values : List Sql.Value}
    (hValues : List.Forall₂ (fun id value => id.toValue? schema.key.type = some value) ids values) :
    ∃ prepared, (resolver.prepareList schema { ids := some ids }).outcome = .ok prepared ∧
      prepared.select.filters = [.idIn schema.key.name values] := by
  obtain ⟨config, compiler, modifier⟩ := resolver
  obtain rfl : modifier = .keep := hModifier
  let base : Select := (Select.ofSchema schema).filter (.idIn schema.key.name values)
  have hBase : withIds schema (.ofSchema schema) (some ids) = .ok base :=
    bind_eq_ok.mpr ⟨_, idFilter_eq_ok.mpr ⟨values, hValues, rfl⟩, rfl⟩
  obtain ⟨fragment, hRendered⟩ : ∃ fragment,
      compiler.writer.renderSelect (base.page config.defaultLimit 0) = .ok fragment := by
    cases values <;> exact ⟨_, rfl⟩
  refine ⟨⟨base.page config.defaultLimit 0, fragment⟩, ?_, rfl⟩
  have hFinish : finish ⟨config, compiler, .keep⟩ schema (base.page config.defaultLimit 0) =
      .ok ⟨base.page config.defaultLimit 0, fragment⟩ :=
    bind_eq_ok.mpr ⟨_, rfl, bind_eq_ok.mpr ⟨_, mapError_eq_ok.mpr hRendered, rfl⟩⟩
  exact prepareList_of_steps (fun hNone => by cases hNone) rfl hBase rfl hFinish

/-- **More ids than a statement has room for are prepared and then refused.** -/
theorem exists_error_of_many_ids {resolver : Resolver} {schema : Schema}
    (hModifier : resolver.modifier = .keep) {ids : List RecordId} {values : List Sql.Value}
    (hValues : List.Forall₂ (fun id value => id.toValue? schema.key.type = some value) ids values)
    (hMany : Reading.maxParameters < ids.length) {files : FileStore}
    (hReachable : files.isReachable = true) :
    ∃ prepared fault, (resolver.prepareList schema { ids := some ids }).outcome = .ok prepared ∧
      (resolver.list (.file files) schema { ids := some ids }).1.outcome =
        .error (FileStore.fault fault) := by
  obtain ⟨prepared, hPrepared, hFilters⟩ := exists_prepareList_of_ids hModifier hValues
  rw [hValues.length_eq] at hMany
  obtain ⟨fault, hFault⟩ :=
    Option.ne_none_iff_exists'.mp (Prepared.fault?_ne_none_of_idIn hFilters hMany)
  refine ⟨prepared, fault, hPrepared, ?_⟩
  rw [outcome_list_file hPrepared, FileStore.fetchRecords, hReachable, hFault]
  rfl

end Resolver

/-! ## A database of heroes -/

/-- The table of a record type with rows in it. -/
def Schema.filled (schema : Schema) (rows : List Row) : Table :=
  { Table.ofStatement schema.createTable with rows }

/-- A database in memory that holds one table. -/
def FileStore.holding (table : Table) : FileStore where
  path := Location.memoryPath
  database := { tables := [table] }

theorem FileStore.table?_holding (schema : Schema) (rows : List Row) :
    (holding (schema.filled rows)).database.table? schema.table = some (schema.filled rows) := by
  simp [holding, Schema.filled, Table.ofStatement, Schema.createTable, Database.table?,
    Text.sameIgnoringAsciiCase_refl]

theorem Schema.hasTable_heroes (rows : List Row) : heroes.HasTable (heroes.filled rows) where
  made := rfl
  unambiguous := by
    unfold Text.Unambiguous
    decide
  length_le := by decide

/-- Heroes can be searched by name. -/
theorem Schema.searchable_name {term : String} (hNulFree : Text.NulFree term)
    (hShort : (Text.lowercase (Text.Like.containing term)).utf8ByteSize ≤ Cell.maxPatternBytes)
    {companions : Nat} (hFew : companions ≤ 2) :
    (TermSet.ofList [("name", some term)]).Searchable heroes.searchable companions where
  nulFree := TermSet.forall_term?_insert nofun (by rintro _ ⟨⟩; exact hNulFree) "name"
  short := TermSet.forall_term?_insert nofun (by rintro _ ⟨⟩; exact hShort) "name"
  few := by
    have hFields : (Predicate.containing heroes.searchable
        (TermSet.ofList [("name", some term)])).length ≤ 2 := List.length_filterMap_le _ _
    have hHeight : 6 ≤ Reading.maxHeight := by decide
    omega

/-- Three heroes of two teams. -/
def Schema.someHeroes : List Row := [
  ⟨3, [.integer 3, .text "Batwoman", .null, .text "blue"]⟩,
  ⟨1, [.integer 1, .text "Batman", .null, .text "blue"]⟩,
  ⟨2, [.integer 2, .text "Wombat", .null, .text "red"]⟩]

theorem Schema.hasRows_someHeroes : heroes.HasRows (heroes.filled someHeroes) where
  fits := by
    intro row hRow
    simp only [filled, someHeroes, List.mem_cons, List.not_mem_nil, or_false] at hRow
    rcases hRow with rfl | rfl | rfl <;>
      exact .cons (.integer _) (.cons (.text _) (.cons (.null _) (.cons (.text _) .nil)))
  nulFree := by
    intro row hRow text hText
    simp only [filled, someHeroes, List.mem_cons, List.not_mem_nil, or_false] at hRow
    rcases hRow with rfl | rfl | rfl <;>
      simp only [List.mem_cons, List.not_mem_nil, or_false, Cell.text.injEq, reduceCtorEq,
        false_or] at hText <;>
      rcases hText with rfl | rfl <;> simp [Text.NulFree]
  keyed := by decide
  numbered := by
    intro _
    decide
  distinct := by decide

/-- A hero of whom nothing is known but the name. -/
def Schema.named (name : String) : Row := ⟨1, [.integer 1, .text name, .null, .null]⟩

theorem Schema.hasRows_named {name : String} (hNulFree : Text.NulFree name) :
    heroes.HasRows (heroes.filled [named name]) where
  fits := List.forall_mem_singleton.mpr
    (.cons (.integer _) (.cons (.text _) (.cons (.null _) (.cons (.null _) .nil))))
  nulFree := by
    refine List.forall_mem_singleton.mpr fun text hText => ?_
    simp only [named, List.mem_cons, List.not_mem_nil, or_false, Cell.text.injEq, reduceCtorEq,
      false_or] at hText
    rw [hText]
    exact hNulFree
  keyed := by
    refine List.forall_mem_singleton.mpr fun h => ?_
    have hKey : Cell.integer 1 = .null := h
    cases hKey
  numbered := fun _ => List.forall_mem_singleton.mpr rfl
  distinct := List.pairwise_singleton _ _

/-- A hero whose name is the character for what could not be read. -/
def Schema.marked : Row := ⟨1, [.integer 1, .text "\ufffd", .null, .null]⟩

theorem Schema.hasRows_marked : heroes.HasRows (heroes.filled [marked]) :=
  hasRows_named (by simp [Text.NulFree])

theorem Schema.lists_marked {meets : Row → Prop} (hMeets : meets marked) :
    heroes.Lists (heroes.filled [marked]) meets [marked] where
  rising := List.pairwise_singleton _ _
  mem_iff row := by
    refine ⟨fun hRow => ?_, fun h => h.1⟩
    obtain rfl := List.mem_singleton.mp hRow
    exact ⟨hRow, hMeets⟩

namespace Resolver

/-! ## List requests -/

/-- **The records of a list request.**  Whatever is in the table, and whatever is asked for within
the limits of the database: the records are those of the rows that the request is about, each once,
in rising order of their keys, cut to the page; and that is what the text of the statement says. -/
theorem list_eq_page {declaration : Declaration} {schema : Schema}
    (hSchema : Schema.ofDeclaration declaration = .ok schema) {opened : FileStore}
    {config : SearchConfig} {made : Resolver}
    (hMade : (create (.file opened) config).outcome = .ok made) {files : FileStore}
    {table : Table} (hReachable : files.isReachable = true)
    (hFound : files.database.table? schema.table = some table) (hTable : schema.HasTable table)
    (hRows : schema.HasRows table) (scope : Option Scope) {request : ListRequest}
    (hSearchable : ∀ terms, request.terms = some terms →
      terms.Searchable schema.searchable (request.companions schema scope))
    {prepared : Prepared}
    (hPrepared : ({ made with modifier := .within scope }.prepareList schema request).outcome =
      .ok prepared)
    (hParams : prepared.fragment.params.length ≤ Reading.maxParameters) :
    ∃ page rows, (request.page config).outcome = .ok page ∧
      schema.Lists table (request.Selects schema scope) rows ∧
      ({ made with modifier := .within scope }.list (.file files) schema request).1.outcome =
        .ok (((rows.drop page.offset.toNat).take page.limit.toNat).map schema.recordOf) ∧
      ∃ statement, prepared.fragment.read? .sqlite = some statement ∧
        Asks schema table (request.Selects schema scope) page statement := by
  have hValid := Schema.valid_of_ofDeclaration hSchema
  obtain rfl := create_file_eq_ok hMade
  obtain ⟨page, rows, hPage, hLists, hList⟩ :=
    exists_list_eq_ok hValid hTable hRows hReachable hFound hSearchable hPrepared hParams
  obtain ⟨same, statement, hSame, hRead, hAsks⟩ :=
    exists_asks_of_prepareList hValid hTable hRows hSearchable hPrepared
  obtain rfl := Except.ok.inj (hPage.symm.trans hSame)
  exact ⟨page, rows, hPage, hLists, hList, statement, hRead, hAsks⟩

/-- The second of the heroes of one team who are named after bats. -/
theorem list_eq_page_of_blue_team :
    let table := Schema.heroes.filled Schema.someHeroes
    let files := FileStore.holding table
    let made : Resolver := ⟨{}, ⟨.generic, .sqlite, none⟩, .keep⟩
    let scope : Scope := ⟨"team", .text "blue", false⟩
    let request : ListRequest := {
      ids := some [.integer 1, .text "3", .integer 1], limit := some 1, offset := some 1,
      terms := some (.ofList [("name", some "BAT")]) }
    ∃ prepared,
      ({ made with modifier := .within (some scope) }.prepareList .heroes request).outcome =
        .ok prepared ∧
      ∃ page rows, (request.page {}).outcome = .ok page ∧
        Schema.heroes.Lists table (request.Selects .heroes (some scope)) rows ∧
        ({ made with modifier := .within (some scope) }.list (.file files) .heroes
            request).1.outcome =
          .ok (((rows.drop page.offset.toNat).take page.limit.toNat).map Schema.heroes.recordOf) ∧
        ∃ statement, prepared.fragment.read? .sqlite = some statement ∧
          Asks .heroes table (request.Selects .heroes (some scope)) page statement := by
  intro table files made scope request
  have hMade : (create (.file files) {}).outcome = .ok made := rfl
  have hReachable : files.isReachable = true := rfl
  have hFound := FileStore.table?_holding .heroes Schema.someHeroes
  have hSearchable : ∀ terms, request.terms = some terms →
      terms.Searchable Schema.heroes.searchable (request.companions .heroes (some scope)) := by
    intro terms hTerms
    obtain rfl := Option.some.inj hTerms
    exact Schema.searchable_name (by simp [Text.NulFree]) (by decide +kernel)
      (request.companions_le .heroes (some scope))
  obtain ⟨prepared, hPrepared, hParams⟩ : ∃ prepared,
      ({ made with modifier := .within (some scope) }.prepareList .heroes request).outcome =
          .ok prepared ∧
        prepared.fragment.params.length ≤ Reading.maxParameters := ⟨_, rfl, by decide⟩
  exact ⟨prepared, hPrepared,
    list_eq_page Schema.ofDeclaration_heroes hMade hReachable hFound
      (Schema.hasTable_heroes Schema.someHeroes) Schema.hasRows_someHeroes (some scope) hSearchable
      hPrepared hParams⟩

/-- Not every record that is listed has the term in a text, and not every request that is prepared
is answered: a code point that stands for no character finds the one for what could not be read, and
the id of a row that is there is refused if it is given too often. -/
theorem list_of_noncharacter :
    let table := Schema.heroes.filled [Schema.marked]
    let files := FileStore.holding table
    let request : ListRequest := { terms := some (.ofList [("name", some "\ufffe")]) }
    let many : List RecordId := List.replicate 32767 (.integer 1)
    (∃ prepared, ((forFile {} none).prepareList .heroes request).outcome = .ok prepared ∧
      (∀ row ∈ table.rows, ∀ field ∈ Schema.heroes.searchable.fields, ∀ text,
        Schema.heroes.cell row field = .text text →
          ¬ (Text.lowercase "\ufffe").toList <:+: (Text.lowercase text).toList) ∧
      ((forFile {} none).list (.file files) .heroes request).1.outcome =
        .ok [Schema.heroes.recordOf Schema.marked]) ∧
    ∃ prepared fault,
      ((forFile {} none).prepareList .heroes { ids := some many }).outcome = .ok prepared ∧
      ((forFile {} none).list (.file files) .heroes { ids := some many }).1.outcome =
        .error (FileStore.fault fault) := by
  intro table files request many
  have hReachable : files.isReachable = true := rfl
  constructor
  · have hValid := Schema.valid_of_ofDeclaration Schema.ofDeclaration_heroes
    have hTable : Schema.heroes.HasTable table := Schema.hasTable_heroes _
    have hRows : Schema.heroes.HasRows table := Schema.hasRows_marked
    have hFound := FileStore.table?_holding .heroes [Schema.marked]
    have hSearchable : ∀ terms, request.terms = some terms →
        terms.Searchable Schema.heroes.searchable (request.companions .heroes none) := by
      intro terms hTerms
      obtain rfl := Option.some.inj hTerms
      exact Schema.searchable_name (by simp [Text.NulFree]) (by decide +kernel)
        (request.companions_le .heroes none)
    obtain ⟨prepared, hPrepared, hParams⟩ : ∃ prepared,
        ((forFile {} none).prepareList .heroes request).outcome = .ok prepared ∧
          prepared.fragment.params.length ≤ Reading.maxParameters := ⟨_, rfl, by decide⟩
    refine ⟨prepared, hPrepared, ?_, ?_⟩
    · refine List.forall_mem_singleton.mpr fun field hField text hText => ?_
      have hFields : field = "name" ∨ field = "alias" := by
        simpa [Schema.heroes] using hField
      rcases hFields with rfl | rfl
      · obtain rfl : "\ufffd" = text := Cell.text.inj hText
        decide +kernel
      · cases hText
    · obtain ⟨page, rows, hPage, hLists, hList⟩ := exists_list_eq_ok hValid hTable hRows hReachable
        hFound hSearchable hPrepared hParams
      have hSelects : request.Selects .heroes none Schema.marked := by
        refine ⟨fun ids hIds => absurd hIds (by simp [request]), fun terms hTerms _ => ?_,
          fun confinement hScope => absurd hScope (by simp)⟩
        obtain rfl := Option.some.inj hTerms
        exact ⟨"name", by decide, "\ufffe", "\ufffd", by decide, by decide, by decide +kernel⟩
      obtain rfl := hLists.eq hValid hRows (Schema.lists_marked hSelects)
      obtain rfl := Except.ok.inj (show Except.ok ⟨10, 0⟩ = Except.ok page from hPage)
      have hOne : (([Schema.marked].drop (0 : Int).toNat).take (10 : Int).toNat).map
          Schema.heroes.recordOf = [Schema.heroes.recordOf Schema.marked] := rfl
      exact hList.trans (congrArg Except.ok hOne)
  · have hValues : List.Forall₂ (fun (id : RecordId) value =>
        id.toValue? Schema.heroes.key.type = some value) many (many.map fun _ => .integer 1) := by
      rw [List.forall₂_map_right_iff, List.forall₂_same]
      intro id hId
      rw [List.eq_of_mem_replicate hId]
      rfl
    have hMany : Reading.maxParameters < many.length := by
      rw [show many.length = 32767 from List.length_replicate]
      decide
    have hModifier : (forFile {} none).modifier = .keep := rfl
    exact exists_error_of_many_ids hModifier hValues hMany hReachable

end Resolver
end FieldSearch
