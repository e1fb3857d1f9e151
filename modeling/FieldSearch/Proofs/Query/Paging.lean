import FieldSearch.Proofs.Database.Selection
import FieldSearch.Proofs.Query.Draft
import FieldSearch.Proofs.Query.Page
import FieldSearch.Proofs.Query.Refusal
import Mathlib

/-!
# Page after page

A client that wants all records of a list request asks for page after page.  The
order of the statement ends with the primary key, so no two rows are equal in it,
whatever a ranking comes to: all pages are cut from one listing, and one after
another they are that listing, without a gap and without a repetition.

The values by which a database sorts are left open, as is the way in which rows judge
comparisons.  What is assumed of it is that it compares rows key by key and that a
page is a slice.  Of a selection from a table nothing is assumed: its pages, one after
another, are one page.

## Main results

* `ends_of_prepareList`: the keys of a prepared statement.
* `Identifies.pairwise_cmp_ne_eq`: such keys tell all rows apart.
* `answers_atPage_iff`: the one answer to the request for a page.
* `select_atPage`: the pages of a table, one after another.
* `pages_lose_nothing`: the pages of every list request that is prepared.
-/

namespace FieldSearch

open Database (Row Table)
open Sql (Dialect Statement View)

/-! ## Pages of a list -/

/-- The pages of a list, one after another, are its beginning. -/
theorem flatMap_pages {α : Type} (items : List α) (size count : Nat) :
    (List.range count).flatMap (fun index => (items.drop (index * size)).take size) =
      items.take (count * size) := by
  induction count with
  | zero => rw [Nat.zero_mul, List.take_zero, List.range_zero, List.flatMap_nil]
  | succ count ih =>
      rw [List.range_succ, List.flatMap_append, ih, List.flatMap_singleton, Nat.succ_mul,
        List.take_add]

/-! ## Keys that tell rows apart -/

/-- The keys end with the primary key.  Before it there is nothing, or a ranking: rows with a field
that begins with its term come first, then those with an early occurrence, and those without one
come last. -/
inductive Schema.Ends (schema : Schema) (dialect : Dialect) : List Sql.Key → Prop
  | plain : Ends schema dialect [⟨.column schema.primaryKey, .ascending, false⟩]
  | ranked (pairs : List FieldTerm) (nonempty : pairs ≠ []) :
      Ends schema dialect [
        ⟨(RankExpr.exactPrefix pairs).toKeyExpr dialect, .descending, false⟩,
        ⟨(RankExpr.matchPosition pairs).toKeyExpr dialect, .ascending, true⟩,
        ⟨.column schema.primaryKey, .ascending, false⟩]

theorem Schema.Ends.exists_leading {schema : Schema} {dialect : Dialect} {keys : List Sql.Key}
    (h : schema.Ends dialect keys) :
    ∃ leading, keys = leading ++ [⟨.column schema.primaryKey, .ascending, false⟩] := by
  cases h with
  | plain => exact ⟨[], rfl⟩
  | ranked pairs nonempty => exact ⟨[_, _], rfl⟩

/-- Every row has a value in the column, and no two rows have the same one. -/
structure Sql.View.Identifies {R : Type} (view : View R) (column : String) (rows : List R) :
    Prop where
  present : ∀ row ∈ rows, view.value (.column column) row ≠ none
  distinct : rows.Pairwise fun left right =>
    view.value (.column column) left ≠ view.value (.column column) right

/-- **Keys that end with the primary key tell all rows apart**, whatever the values of those before
it are. -/
theorem Sql.View.Identifies.pairwise_cmp_ne_eq {R : Type} {view : View R} {rows : List R}
    {schema : Schema} (h : view.Identifies schema.primaryKey rows) {dialect : Dialect}
    {keys : List Sql.Key} (hKeys : schema.Ends dialect keys) :
    rows.Pairwise fun left right => view.cmp dialect keys left right ≠ .eq := by
  obtain ⟨leading, rfl⟩ := hKeys.exists_leading
  refine h.distinct.imp_of_mem fun {left right} hLeft hRight hNe => ?_
  obtain ⟨first, hFirst⟩ := Option.ne_none_iff_exists'.mp (h.present left hLeft)
  obtain ⟨second, hSecond⟩ := Option.ne_none_iff_exists'.mp (h.present right hRight)
  refine view.cmp_ne_eq_of_append dialect leading (view.cmpKey_ne_eq dialect hFirst hSecond ?_)
  rintro rfl
  exact hNe (hFirst.trans hSecond.symm)

/-! ## Requests for pages -/

/-- The request for one of the pages, which are counted from zero. -/
def ListRequest.atPage (request : ListRequest) (size index : Nat) : ListRequest :=
  { request with limit := some size, offset := some (index * size : Nat) }

/-- A page that is not too great is the page that was asked for. -/
theorem ListRequest.page_atPage (request : ListRequest) {config : SearchConfig} {size : Nat}
    (hSize : size ≤ config.maxLimit) (index : Nat) :
    ((request.atPage size index).page config).outcome = .ok ⟨size, (index * size : Nat)⟩ := by
  have hLimit : (settleLimit config (some size)).outcome = .ok (size : Int) :=
    settleLimit_of_le (Int.natCast_nonneg size) (Int.ofNat_le.mpr hSize)
  have hOffset : (settleOffset (some (index * size : Nat))).outcome =
      .ok ((index * size : Nat) : Int) := settleOffset_of_nonneg (Int.natCast_nonneg _)
  exact Logged.outcome_bind_eq_ok.mpr ⟨_, hLimit,
    Logged.outcome_bind_eq_ok.mpr ⟨_, hOffset, rfl⟩⟩

/-- What a statement cuts for one of the pages. -/
theorem Sql.cut_page {R : Type} (select : Select) (size index : Nat) (listing : List R) :
    Sql.cut (select.page size (index * size : Nat)).limit
        (select.page size (index * size : Nat)).shownOffset listing =
      (listing.drop (index * size)).take size := by
  have hOffset : ((select.page size (index * size : Nat)).shownOffset.getD 0).toNat =
      index * size := by
    rw [Select.shownOffset, Select.page]
    dsimp only
    split
    · rfl
    · rw [Option.getD_none]
      omega
  change (listing.drop ((select.page size (index * size : Nat)).shownOffset.getD 0).toNat).take
    (size : Int).toNat = _
  rw [hOffset, Int.toNat_natCast]

namespace Resolver

variable {resolver : Resolver} {schema : Schema} {request : ListRequest} {prepared : Prepared}

/-- **Where a request is prepared, so is each of its pages**, as a page of the same selection. -/
theorem exists_prepareList_atPage
    (h : (resolver.prepareList schema request).outcome = .ok prepared) {size : Nat}
    (hSize : size ≤ resolver.config.maxLimit) (index : Nat) :
    ∃ fragment, (resolver.prepareList schema (request.atPage size index)).outcome =
      .ok ⟨prepared.select.page size (index * size : Nat), fragment⟩ := by
  obtain ⟨hAllowed, page, base, searched, -, hBase, hSearched, hFinish⟩ := prepareList_eq_ok h
  obtain ⟨hModified, hRendered⟩ := finish_eq_ok hFinish
  have hExpressible := Sql.exists_renderSelect_iff.mp ⟨_, hRendered⟩
  obtain ⟨fragment, hPage⟩ := exists_finish_of_modify
    (Modifier.modify_page hModified size (index * size : Nat))
    (hExpressible.page size (index * size : Nat))
  exact ⟨fragment, prepareList_of_steps hAllowed (request.page_atPage hSize index) hBase hSearched
    hPage⟩

/-- What the statement of a list request says, if it can be read; and it can, unless the modifier
adds an empty choice. -/
theorem says_of_prepareList {declaration : Declaration}
    (hSchema : Schema.ofDeclaration declaration = .ok schema)
    (h : (resolver.prepareList schema request).outcome = .ok prepared) :
    ((∀ filter ∈ prepared.select.filters, filter.Writable) →
      ∃ statement, prepared.fragment.read? resolver.compiler.dialect = some statement) ∧
    ∀ statement, prepared.fragment.read? resolver.compiler.dialect = some statement →
      (∀ filter ∈ prepared.select.filters, filter.Writable) ∧
      (∀ judgement, statement.Admits judgement ↔ ∀ filter ∈ prepared.select.filters,
        filter.Accepts resolver.compiler.dialect resolver.compiler.writer.textSearchConfig
          judgement) ∧
      statement.keys =
        prepared.select.sorting.keys.map (SortKey.toKey resolver.compiler.dialect) ∧
      statement.limit = prepared.select.limit ∧
      statement.offset = prepared.select.shownOffset := by
  obtain ⟨select, hDrafted, hFinish, -⟩ := exists_drafted_of_prepareList h
  obtain ⟨hModified, hRendered⟩ := finish_eq_ok hFinish
  have hExtends := Select.extends_of_modify hModified
  refine ⟨fun hWritable => hDrafted.exists_read? hSchema hExtends hWritable hRendered,
    fun statement hRead => ?_⟩
  have hAsks := hDrafted.asks hSchema hExtends hRendered hRead
  rw [← hExtends.sorting] at hAsks
  exact hAsks

/-- **The keys of a prepared statement end with the primary key.** -/
theorem ends_of_prepareList {declaration : Declaration}
    (hSchema : Schema.ofDeclaration declaration = .ok schema)
    (h : (resolver.prepareList schema request).outcome = .ok prepared) {statement : Statement}
    (hRead : prepared.fragment.read? resolver.compiler.dialect = some statement) :
    schema.Ends resolver.compiler.dialect statement.keys := by
  obtain ⟨select, hDrafted, hFinish, -⟩ := exists_drafted_of_prepareList h
  obtain ⟨hModified, -⟩ := finish_eq_ok hFinish
  obtain ⟨-, hSays⟩ := says_of_prepareList hSchema h
  obtain ⟨-, -, hKeys, -⟩ := hSays statement hRead
  rw [hKeys, (Select.extends_of_modify hModified).sorting]
  rcases hDrafted.sorting with hSorting | ⟨pairs, hPairs, hSorting⟩
  · rw [hSorting]
    exact .plain
  · rw [hSorting]
    exact .ranked pairs hPairs

/-- What a database may answer to a list request: the request is prepared, the text of its statement
can be read, and the rows are an answer to what it says. -/
def Answers {R : Type} (resolver : Resolver) (schema : Schema) (request : ListRequest)
    (view : View R) (rows answer : List R) : Prop :=
  ∃ prepared statement, (resolver.prepareList schema request).outcome = .ok prepared ∧
    prepared.fragment.read? resolver.compiler.dialect = some statement ∧
    statement.Answers resolver.compiler.dialect view rows answer

/-- **The one answer to the request for a page** is a slice of the one listing. -/
theorem answers_atPage_iff {declaration : Declaration}
    (hSchema : Schema.ofDeclaration declaration = .ok schema)
    (h : (resolver.prepareList schema request).outcome = .ok prepared) {statement : Statement}
    (hRead : prepared.fragment.read? resolver.compiler.dialect = some statement) {R : Type}
    {view : View R} {rows listing : List R}
    (hDistinct : rows.Pairwise fun left right =>
      view.cmp resolver.compiler.dialect statement.keys left right ≠ .eq)
    (hLists : statement.Lists resolver.compiler.dialect view rows listing) {size : Nat}
    (hSize : size ≤ resolver.config.maxLimit) (index : Nat) (answer : List R) :
    resolver.Answers schema (request.atPage size index) view rows answer ↔
      answer = (listing.drop (index * size)).take size := by
  obtain ⟨fragment, hPage⟩ := exists_prepareList_atPage h hSize index
  obtain ⟨-, hSays⟩ := says_of_prepareList hSchema h
  obtain ⟨hWritable, hAdmits, hKeys, -⟩ := hSays statement hRead
  obtain ⟨hReadable, hPageSays⟩ := says_of_prepareList hSchema hPage
  -- The page has the filters and the order of the request, so its statement lists the same rows.
  have hAnswers : ∀ others, fragment.read? resolver.compiler.dialect = some others →
      (others.Answers resolver.compiler.dialect view rows answer ↔
        answer = (listing.drop (index * size)).take size) := by
    intro others hOthers
    obtain ⟨-, hAlso, hSame, hLimit, hOffset⟩ := hPageSays others hOthers
    rw [Statement.answers_iff hDistinct (hSame.trans hKeys.symm)
      (fun judgement => (hAlso judgement).trans (hAdmits judgement).symm) hLists, hLimit, hOffset,
      Sql.cut_page]
  constructor
  · rintro ⟨other, others, hOther, hOthers, hAnswer⟩
    obtain rfl := Except.ok.inj (hPage.symm.trans hOther)
    exact (hAnswers others hOthers).mp hAnswer
  · intro hAnswer
    obtain ⟨others, hOthers⟩ := hReadable hWritable
    exact ⟨_, others, hPage, hOthers, (hAnswers others hOthers).mpr hAnswer⟩

/-- **The pages of a table, one after another, are one page of its rows**, whatever the table has
in it. -/
theorem select_atPage (h : (resolver.prepareList schema request).outcome = .ok prepared)
    {size : Nat} (hSize : size ≤ resolver.config.maxLimit) {table : Table}
    {pages : Nat → List Row} {count : Nat}
    (hPages : ∀ index < count, ∀ page,
      (resolver.prepareList schema (request.atPage size index)).outcome = .ok page →
        table.select page.select = .ok (pages index)) :
    table.select (prepared.select.page (count * size : Nat) (0 : Nat)) =
      .ok ((List.range count).flatMap pages) := by
  refine Table.select_pages fun index hIndex => ?_
  obtain ⟨fragment, hPage⟩ := exists_prepareList_atPage h hSize index
  exact hPages index hIndex _ hPage

/-- **Paging is reproducible and loses nothing.**  The text of a prepared statement can be read,
unless the modifier adds an empty choice, and its keys end with the primary key.  Where rows have
distinct primary keys, this order is total and strict on them, so there is one listing of the rows
for which the condition holds.  A database answers to the request for a page of any size that is
allowed with a slice of the listing and nothing else, and the pages together are the listing.  The
pages that are selected from a table are together one page of it. -/
theorem pages_lose_nothing {declaration : Declaration}
    (hSchema : Schema.ofDeclaration declaration = .ok schema)
    (hPrepared : (resolver.prepareList schema request).outcome = .ok prepared) :
    ((∀ predicate, resolver.modifier = .narrow predicate → predicate.Writable) →
      ∃ statement, prepared.fragment.read? resolver.compiler.dialect = some statement) ∧
    (∀ statement, prepared.fragment.read? resolver.compiler.dialect = some statement →
      schema.Ends resolver.compiler.dialect statement.keys ∧
      ∀ {R : Type} (view : View R) (rows : List R), view.Identifies schema.primaryKey rows →
        Std.TransCmp (view.cmp resolver.compiler.dialect statement.keys) ∧
        (rows.Pairwise fun left right =>
          view.cmp resolver.compiler.dialect statement.keys left right ≠ .eq) ∧
        (∀ key ∈ statement.keys, key.nullsLast = true → ∀ left right,
          view.value key.expr left ≠ none → view.value key.expr right = none →
            view.cmpKey resolver.compiler.dialect key left right = .lt) ∧
        ∃ listing, (∀ others, statement.Lists resolver.compiler.dialect view rows others ↔
            others = listing) ∧
          ∀ size, size ≤ resolver.config.maxLimit →
            (∀ index answer, resolver.Answers schema (request.atPage size index) view rows answer ↔
              answer = (listing.drop (index * size)).take size) ∧
            ∀ pages : Nat → List R,
              (∀ index, resolver.Answers schema (request.atPage size index) view rows
                (pages index)) →
              (∀ count, (List.range count).flatMap pages = listing.take (count * size)) ∧
              ∀ count, listing.length ≤ count * size →
                (List.range count).flatMap pages = listing) ∧
    ∀ size, size ≤ resolver.config.maxLimit → ∀ (table : Table) (pages : Nat → List Row) count,
      (∀ index < count, ∀ page,
        (resolver.prepareList schema (request.atPage size index)).outcome = .ok page →
          table.select page.select = .ok (pages index)) →
      table.select (prepared.select.page (count * size : Nat) (0 : Nat)) =
        .ok ((List.range count).flatMap pages) := by
  obtain ⟨hReadable, -⟩ := says_of_prepareList hSchema hPrepared
  refine ⟨fun hModifier => hReadable ?_, fun statement hRead => ?_,
    fun size hSize table pages count hPages => select_atPage hPrepared hSize hPages⟩
  · obtain ⟨select, hDrafted, hFinish, -⟩ := exists_drafted_of_prepareList hPrepared
    exact (hDrafted.modify hModifier (finish_eq_ok hFinish).1).filters
  have hEnds := ends_of_prepareList hSchema hPrepared hRead
  refine ⟨hEnds, fun {R} view rows hIdentifies => ?_⟩
  have hDistinct := hIdentifies.pairwise_cmp_ne_eq hEnds
  obtain ⟨listing, hLists⟩ := Statement.exists_lists resolver.compiler.dialect view statement rows
  refine ⟨inferInstance, hDistinct, fun key _ hLast left right hLeft hRight =>
    view.cmpKey_of_nullsLast _ hLast hLeft hRight, listing, fun others => ⟨fun hOthers => ?_, ?_⟩,
    fun size hSize => ?_⟩
  · exact hLists.eq hDistinct rfl (fun _ => Iff.rfl) hOthers
  · rintro rfl
    exact hLists
  have hPages := answers_atPage_iff hSchema hPrepared hRead hDistinct hLists hSize
  refine ⟨hPages, fun pages hAnswers => ?_⟩
  have hSlices : pages = fun index => (listing.drop (index * size)).take size :=
    funext fun index => (hPages index _).mp (hAnswers index)
  have hTaken : ∀ count, (List.range count).flatMap pages = listing.take (count * size) := by
    intro count
    rw [hSlices, flatMap_pages]
  exact ⟨hTaken, fun count hCount => (hTaken count).trans (List.take_of_length_le hCount)⟩

/-- Rows that are their own primary keys and meet every condition.  The odd ones begin with the
term, and no row has a position. -/
def numbers : View Nat where
  judgement _ :=
    ⟨fun _ _ _ => some true, fun _ _ _ _ => some true, fun _ _ => some true, fun _ => true⟩
  Value _ := Nat
  value
    | .column _, row => some row
    | .greatest _, row => some (row % 2)
    | _, _ => none

/-- Two pages of two rows each have all four rows of a ranked search, though each rank has two of
them and none has a position. -/
theorem pages_lose_nothing_of_ties :
    let resolver : Resolver := ⟨{}, ⟨.fullTextPrefix, .postgres, none⟩, .keep⟩
    let request : ListRequest :=
      { terms := some (.ofList [("name", some "bat"), ("alias", some "bat")]) }
    ∃ prepared statement, (resolver.prepareList .heroes request).outcome = .ok prepared ∧
      prepared.fragment.read? .postgres = some statement ∧
      numbers.Identifies "id" [3, 4, 1, 2] ∧
      ∃ listing, statement.Lists .postgres numbers [3, 4, 1, 2] listing ∧
        ∀ pages : Nat → List Nat,
          (∀ index, resolver.Answers .heroes (request.atPage 2 index) numbers [3, 4, 1, 2]
            (pages index)) →
          (List.range 2).flatMap pages = listing := by
  intro resolver request
  obtain ⟨prepared, hPrepared⟩ : ∃ prepared,
      (resolver.prepareList .heroes request).outcome = .ok prepared := ⟨_, rfl⟩
  obtain ⟨hReadable, hStatement, -⟩ := pages_lose_nothing Schema.ofDeclaration_heroes hPrepared
  obtain ⟨statement, hRead⟩ := hReadable fun predicate hNarrow => by cases hNarrow
  have hIdentifies : numbers.Identifies "id" [3, 4, 1, 2] := by
    refine ⟨fun row _ hNone => ?_, ?_⟩
    · cases hNone
    · simp [numbers]
  obtain ⟨-, hView⟩ := hStatement statement hRead
  obtain ⟨-, -, -, listing, hListing, hPages⟩ := hView numbers [3, 4, 1, 2] hIdentifies
  have hLists := (hListing listing).mpr rfl
  have hFour : listing.length ≤ 2 * 2 :=
    hLists.perm.length_eq.trans_le (List.length_filter_le _ [3, 4, 1, 2])
  refine ⟨prepared, statement, hPrepared, hRead, hIdentifies, listing, hLists,
    fun pages hAnswers => ?_⟩
  obtain ⟨-, hWhole⟩ := hPages 2 (by decide)
  exact (hWhole pages hAnswers).2 2 hFour

end Resolver
end FieldSearch
