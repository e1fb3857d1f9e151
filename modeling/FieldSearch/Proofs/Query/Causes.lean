import FieldSearch.Proofs.Query.Page
import FieldSearch.Proofs.Query.Paging
import FieldSearch.Proofs.Search.FieldSet
import Mathlib

/-!
# Why list requests are refused

A list request goes through checks, one after another, and is refused by the first that
it does not pass: whether its record type may be listed without ids, the limit, the
offset, the ids, the terms, and at last the scope to which the resolver is confined.  What
each of them refuses is said here in terms of the request alone.  That nothing else
refuses a request, its statement included, is due to the resolver, which was made for a
dialect that can express its searches.

A request that passes all checks has a page within the bounds of the configuration, since
these were compared when the resolver was made.

## Main results

* `refusedBy_prepareList`: the checks of a list request, in their order.
* `refuses_for_first_cause`: all of it for every resolver that is made.
-/

namespace FieldSearch

/-! ## The checks of a list request -/

/-- What is checked of a list request. -/
inductive ListRequest.Check where
  | listing
  | limit
  | offset
  | ids
  | terms
  | scope
deriving DecidableEq

/-- The checks in the order in which they are made. -/
def ListRequest.Check.inOrder : List Check := [.listing, .limit, .offset, .ids, .terms, .scope]

open ListRequest (Check)

namespace Resolver

/-- What a check refuses, and the fault with which it does. -/
inductive Refuses (resolver : Resolver) (schema : Schema) (request : ListRequest) :
    Check → StorageError → Prop where
  | unlisted (noIds : request.ids = none) (closed : schema.allowsUnfilteredFetch = false) :
      Refuses resolver schema request .listing (.query (.unfilteredFetchNotAllowed schema.name))
  | limit {limit : Int} (asked : request.limit = some limit) (negative : limit < 0) :
      Refuses resolver schema request .limit (.query (.invalidPaging "limit" limit))
  | offset {offset : Int} (asked : request.offset = some offset) (negative : offset < 0) :
      Refuses resolver schema request .offset (.query (.invalidPaging "offset" offset))
  | id {ids : List RecordId} {id : RecordId} (given : request.ids = some ids) (mem : id ∈ ids)
      (unfit : id.toValue? schema.key.type = none) :
      Refuses resolver schema request .ids
        (.query (.typeMismatch schema.name schema.primaryKey schema.key.type.name))
  | field {terms : TermSet} {field : String} (given : request.terms = some terms)
      (least : IsLeast {name | name ∈ terms.fields ∧ name ∉ schema.searchable.fields} field) :
      Refuses resolver schema request .terms (.search (.invalidSearchField schema.name field))
  | unscoped {scope : Scope} (confined : resolver.modifier = .scope scope)
      (missing : ∀ column ∈ schema.columns, column.name ≠ scope.column)
      (strict : scope.lenient = false) :
      Refuses resolver schema request .scope
        (.query (.rejected schema.name ("not scoped by '" ++ scope.column ++ "'")))
  | value {scope : Scope} {column : Column} (confined : resolver.modifier = .scope scope)
      (mem : column ∈ schema.columns) (named : column.name = scope.column)
      (unfit : column.type.toValue? scope.value = none) :
      Refuses resolver schema request .scope
        (.query (.typeMismatch schema.name scope.column column.type.name))

/-- Whatever a list request is refused for, it is the request that is at fault. -/
theorem Refuses.isRequestError {resolver : Resolver} {schema : Schema} {request : ListRequest}
    {check : Check} {fault : StorageError} (h : resolver.Refuses schema request check fault) :
    fault.isRequestError = true := by
  cases h <;> rfl

end Resolver

/-! ## Single checks -/

namespace Resolver

/-- The value of an id in the filter of ids. -/
def keyValue (schema : Schema) (id : RecordId) : Except QueryError Sql.Value :=
  match id.toValue? schema.key.type with
  | some value => pure value
  | none => throw (schema.mismatch schema.key)

theorem keyValue_eq_error {schema : Schema} {id : RecordId} {fault : QueryError} :
    keyValue schema id = .error fault ↔
      id.toValue? schema.key.type = none ∧ fault = schema.mismatch schema.key := by
  rw [keyValue]
  exact Schema.valueOrThrow_eq_error

theorem withIds_eq_error {schema : Schema} {select : Select} {ids : Option (List RecordId)}
    {fault : QueryError} :
    withIds schema select ids = .error fault ↔
      (∃ given, ids = some given ∧ ∃ id ∈ given, id.toValue? schema.key.type = none) ∧
        fault = schema.mismatch schema.key := by
  cases ids with
  | none =>
      constructor
      · intro h
        cases h
      · rintro ⟨⟨_, hNone, -⟩, -⟩
        cases hNone
  | some given =>
      have hIds : withIds schema select (some given) = .error fault ↔
          given.mapM (keyValue schema) = .error fault := by
        change ((given.mapM (keyValue schema) >>= _) >>= _) = _ ↔ _
        cases given.mapM (keyValue schema) with
        | error other =>
            constructor <;> intro h <;> exact congrArg _ (Except.error.inj h)
        | ok values => constructor <;> intro h <;> cases h
      rw [hIds, mapM_eq_error_of_const fun id other h => (keyValue_eq_error.mp h).2]
      simp only [keyValue_eq_error, and_true, Option.some.injEq, exists_eq_left']
      exact and_comm

theorem withTerms_eq_error {resolver : Resolver} {schema : Schema} {select : Select}
    {terms : Option TermSet} {fault : SearchError} :
    (resolver.withTerms schema select terms).outcome = .error fault ↔
      ∃ given, terms = some given ∧ schema.searchable.check given = .error fault := by
  cases terms with
  | none =>
      constructor
      · intro h
        cases h
      · rintro ⟨_, hNone, -⟩
        cases hNone
  | some given =>
      have hCompile : (resolver.withTerms schema select (some given)).outcome = .error fault ↔
          resolver.compiler.compileTerms schema given = .error fault := by
        rw [withTerms, Logged.outcome_bind_eq_error, Compiler.outcome_compile, or_iff_left]
        rintro ⟨_, -, h⟩
        cases h
      rw [hCompile, Compiler.compileTerms_eq_error]
      simp only [Option.some.injEq, exists_eq_left']

end Resolver

theorem Scope.apply_eq_error_of_none {confinement : Scope} {schema : Schema} {select : Select}
    (hColumn : schema.column? confinement.column = none) {fault : QueryError} :
    confinement.apply schema select = .error fault ↔
      confinement.lenient = false ∧
        fault = .rejected schema.name ("not scoped by '" ++ confinement.column ++ "'") := by
  rw [apply_of_none hColumn]
  cases confinement.lenient with
  | true =>
      constructor
      · intro h
        cases h
      · rintro ⟨hStrict, -⟩
        cases hStrict
  | false =>
      constructor
      · intro h
        exact ⟨rfl, (Except.error.inj h).symm⟩
      · rintro ⟨-, rfl⟩
        rfl

theorem Scope.apply_eq_error_of_some {confinement : Scope} {schema : Schema} {select : Select}
    {column : Column} (hColumn : schema.column? confinement.column = some column)
    {fault : QueryError} :
    confinement.apply schema select = .error fault ↔
      column.type.toValue? confinement.value = none ∧ fault = schema.mismatch column := by
  rw [apply_of_some hColumn, ← Schema.columnValue_eq_error hColumn]
  refine bind_eq_error.trans (or_iff_left ?_)
  rintro ⟨_, -, h⟩
  cases h

/-- **A scope refuses a record type without its column**, unless it is lenient, and one whose column
does not take its value. -/
theorem Scope.apply_eq_error {confinement : Scope} {schema : Schema} {select : Select}
    (hValid : schema.Valid) {fault : QueryError} :
    confinement.apply schema select = .error fault ↔
      ((∀ column ∈ schema.columns, column.name ≠ confinement.column) ∧
          confinement.lenient = false ∧
          fault = .rejected schema.name ("not scoped by '" ++ confinement.column ++ "'")) ∨
        ∃ column ∈ schema.columns, column.name = confinement.column ∧
          column.type.toValue? confinement.value = none ∧
          fault = .typeMismatch schema.name confinement.column column.type.name := by
  cases hColumn : schema.column? confinement.column with
  | none =>
      have hMissing := Schema.column?_eq_none_iff.mp hColumn
      rw [apply_eq_error_of_none hColumn, or_iff_left, and_iff_right hMissing]
      rintro ⟨column, hMem, hName, -⟩
      exact hMissing column hMem hName
  | some column =>
      obtain ⟨hMem, hName⟩ := hValid.column?_eq_some_iff.mp hColumn
      rw [apply_eq_error_of_some hColumn, or_iff_right fun h => h.1 column hMem hName,
        Schema.mismatch, hName]
      constructor
      · exact fun h => ⟨column, hMem, hName, h⟩
      · rintro ⟨other, hOther, hOtherName, h⟩
        obtain rfl := hValid.column_ext hOther hMem (hOtherName.trans hName.symm)
        exact h

/-! ## Whole requests -/

namespace Resolver

/-- What becomes of a list request, events aside. -/
theorem outcome_prepareList (resolver : Resolver) (schema : Schema) (request : ListRequest) :
    (resolver.prepareList schema request).outcome = (do
      listing schema request
      let limit ← (ListRequest.settleLimit resolver.config request.limit).outcome.mapError .query
      let offset ← (ListRequest.settleOffset request.offset).outcome.mapError .query
      let base ← (withIds schema (.ofSchema schema) request.ids).mapError .query
      let searched ← (resolver.withTerms schema base request.terms).outcome.mapError .search
      resolver.finish schema (searched.page limit offset)) := by
  rw [outcome_prepareList_eq_steps]
  refine bind_congr fun _ => ?_
  simp only [ListRequest.page, Logged.outcome_bind, mapError_bind, bind_assoc]
  exact bind_congr fun limit => bind_congr fun offset => pure_bind (Page.mk limit offset) _

section

-- One lemma for each check that is made before the statement is finished.
variable {resolver : Resolver} {schema : Schema} {request : ListRequest} {fault : StorageError}

theorem listing_eq_error_iff :
    listing schema request = .error fault ↔ resolver.Refuses schema request .listing fault := by
  rw [listing]
  by_cases hClosed : (request.ids.isNone && !schema.allowsUnfilteredFetch) = true
  · rw [if_pos hClosed]
    have hBoth : request.ids = none ∧ schema.allowsUnfilteredFetch = false := by
      simpa using hClosed
    constructor
    · intro h
      obtain rfl := Except.error.inj h
      exact .unlisted hBoth.1 hBoth.2
    · intro h
      cases h
      rfl
  · rw [if_neg hClosed]
    constructor
    · intro h
      cases h
    · intro h
      cases h with
      | unlisted noIds closed =>
          refine absurd ?_ hClosed
          rw [noIds, closed]
          rfl

theorem settleLimit_eq_error_iff :
    (ListRequest.settleLimit resolver.config request.limit).outcome.mapError .query =
        .error fault ↔ resolver.Refuses schema request .limit fault := by
  rw [mapError_eq_error]
  constructor
  · rintro ⟨cause, hCause, rfl⟩
    obtain ⟨limit, hAsked, hNegative, rfl⟩ := ListRequest.settleLimit_eq_error.mp hCause
    exact .limit hAsked hNegative
  · intro h
    cases h with
    | limit asked negative =>
        exact ⟨_, ListRequest.settleLimit_eq_error.mpr ⟨_, asked, negative, rfl⟩, rfl⟩

theorem settleOffset_eq_error_iff :
    (ListRequest.settleOffset request.offset).outcome.mapError .query = .error fault ↔
      resolver.Refuses schema request .offset fault := by
  rw [mapError_eq_error]
  constructor
  · rintro ⟨cause, hCause, rfl⟩
    obtain ⟨offset, hAsked, hNegative, rfl⟩ := ListRequest.settleOffset_eq_error.mp hCause
    exact .offset hAsked hNegative
  · intro h
    cases h with
    | offset asked negative =>
        exact ⟨_, ListRequest.settleOffset_eq_error.mpr ⟨_, asked, negative, rfl⟩, rfl⟩

theorem withIds_eq_error_iff {select : Select} :
    (withIds schema select request.ids).mapError .query = .error fault ↔
      resolver.Refuses schema request .ids fault := by
  rw [mapError_eq_error]
  constructor
  · rintro ⟨cause, hCause, rfl⟩
    obtain ⟨⟨ids, hGiven, id, hMem, hUnfit⟩, rfl⟩ := withIds_eq_error.mp hCause
    exact .id hGiven hMem hUnfit
  · intro h
    cases h with
    | id given mem unfit =>
        exact ⟨_, withIds_eq_error.mpr ⟨⟨_, given, _, mem, unfit⟩, rfl⟩, rfl⟩

theorem withTerms_eq_error_iff (hRecord : schema.searchable.record = schema.name)
    {select : Select} :
    (resolver.withTerms schema select request.terms).outcome.mapError .search = .error fault ↔
      resolver.Refuses schema request .terms fault := by
  rw [mapError_eq_error]
  constructor
  · rintro ⟨cause, hCause, rfl⟩
    obtain ⟨terms, hGiven, hRefused⟩ := withTerms_eq_error.mp hCause
    obtain ⟨field, hMisses, rfl⟩ := FieldSet.check_eq_error_iff.mp hRefused
    rw [FieldSet.undeclared, hRecord]
    exact .field hGiven hMisses
  · intro h
    cases h with
    | field given least =>
        refine ⟨_, withTerms_eq_error.mpr ⟨_, given,
          FieldSet.check_eq_error_iff.mpr ⟨_, least, rfl⟩⟩, ?_⟩
        rw [FieldSet.undeclared, hRecord]

end

/-- What is drawn up for a request, once its ids and its terms were accepted. -/
theorem expressible_searched {resolver : Resolver} {schema : Schema} {request : ListRequest}
    (hSound : resolver.compiler.Sound) {base searched : Select}
    (hBase : withIds schema (.ofSchema schema) request.ids = .ok base)
    (hSearched : (resolver.withTerms schema base request.terms).outcome = .ok searched) :
    searched.Expressible resolver.compiler.dialect :=
  expressible_withTerms hSound
    (expressible_withIds (Select.expressible_ofSchema resolver.compiler.dialect schema) hBase)
    hSearched

/-- Where a selection can be expressed, only its modification can still fail. -/
theorem finish_eq_error {resolver : Resolver} {schema : Schema}
    (hModifier : resolver.modifier = .keep ∨ ∃ scope, resolver.modifier = .scope scope)
    {select : Select} (hExpressible : select.Expressible resolver.compiler.dialect)
    {fault : StorageError} :
    resolver.finish schema select = .error fault ↔
      ∃ cause, resolver.modifier.modify schema select = .error cause ∧ fault = .query cause := by
  have hNarrowsNothing : resolver.modifier.Expressible resolver.compiler.dialect := by
    rcases hModifier with hKeep | ⟨scope, hScope⟩
    · rw [hKeep]
      trivial
    · rw [hScope]
      trivial
  cases hModified : resolver.modifier.modify schema select with
  | error cause =>
      rw [finish, hModified]
      constructor
      · intro h
        exact ⟨cause, rfl, (Except.error.inj h).symm⟩
      · rintro ⟨other, hOther, rfl⟩
        obtain rfl := Except.error.inj hOther
        rfl
  | ok next =>
      obtain ⟨fragment, hFinished⟩ := exists_finish_of_modify hModified
        (Modifier.expressible_of_modify hNarrowsNothing hExpressible hModified)
      rw [hFinished]
      constructor
      · intro h
        cases h
      · rintro ⟨_, hRefused, -⟩
        cases hRefused

/-- The scope is the last to refuse a request. -/
theorem finish_eq_error_iff {resolver : Resolver} {schema : Schema} {request : ListRequest}
    (hModifier : resolver.modifier = .keep ∨ ∃ scope, resolver.modifier = .scope scope)
    (hValid : schema.Valid) {select : Select}
    (hExpressible : select.Expressible resolver.compiler.dialect) {fault : StorageError} :
    resolver.finish schema select = .error fault ↔
      resolver.Refuses schema request .scope fault := by
  rw [finish_eq_error hModifier hExpressible]
  rcases hModifier with hKeep | ⟨scope, hScope⟩
  · rw [hKeep]
    constructor
    · rintro ⟨_, hRefused, -⟩
      cases hRefused
    · intro h
      cases h with
      | unscoped confined =>
          rw [hKeep] at confined
          cases confined
      | value confined =>
          rw [hKeep] at confined
          cases confined
  · rw [hScope]
    constructor
    · rintro ⟨cause, hCause, rfl⟩
      rcases (Scope.apply_eq_error hValid).mp hCause with ⟨hMissing, hStrict, rfl⟩ |
        ⟨column, hMem, hName, hUnfit, rfl⟩
      · exact .unscoped hScope hMissing hStrict
      · exact .value hScope hMem hName hUnfit
    · intro h
      cases h with
      | unscoped confined missing strict =>
          obtain rfl := Modifier.scope.inj (hScope.symm.trans confined)
          exact ⟨_, (Scope.apply_eq_error hValid).mpr (.inl ⟨missing, strict, rfl⟩), rfl⟩
      | value confined mem named unfit =>
          obtain rfl := Modifier.scope.inj (hScope.symm.trans confined)
          exact ⟨_, (Scope.apply_eq_error hValid).mpr (.inr ⟨_, mem, named, unfit, rfl⟩), rfl⟩

/-- **The checks of a list request, in their order.** -/
theorem refusedBy_prepareList {resolver : Resolver} {schema : Schema}
    (hSound : resolver.compiler.Sound)
    (hModifier : resolver.modifier = .keep ∨ ∃ scope, resolver.modifier = .scope scope)
    (hValid : schema.Valid) (hRecord : schema.searchable.record = schema.name)
    (request : ListRequest) :
    RefusedBy (resolver.Refuses schema request) Check.inOrder
      (resolver.prepareList schema request).outcome := by
  rw [outcome_prepareList]
  refine .bind (fun _ => listing_eq_error_iff) fun _ _ => ?_
  refine .bind (fun _ => settleLimit_eq_error_iff) fun limit _ => ?_
  refine .bind (fun _ => settleOffset_eq_error_iff) fun offset _ => ?_
  refine .bind (fun _ => withIds_eq_error_iff) fun base hBase => ?_
  refine .bind (fun _ => withTerms_eq_error_iff hRecord) fun searched hSearched => ?_
  have hExpressible := (expressible_searched hSound (mapError_eq_ok.mp hBase)
    (mapError_eq_ok.mp hSearched)).page limit offset
  rw [← bind_pure (resolver.finish schema (searched.page limit offset))]
  exact .bind (fun _ => finish_eq_error_iff hModifier hValid hExpressible) fun prepared _ =>
    .ok prepared

/-- **The statement of a list request that passes all checks** can be read, and has the page that is
granted. -/
theorem exists_read?_of_prepareList {resolver : Resolver} {schema : Schema}
    {declaration : Declaration} (hSchema : Schema.ofDeclaration declaration = .ok schema)
    (hModifier : resolver.modifier = .keep ∨ ∃ scope, resolver.modifier = .scope scope)
    {request : ListRequest} {prepared : Prepared}
    (h : (resolver.prepareList schema request).outcome = .ok prepared) :
    ∃ statement, prepared.fragment.read? resolver.compiler.dialect = some statement ∧
      statement.limit = some (request.grantedLimit resolver.config) ∧
      0 ≤ request.grantedLimit resolver.config ∧
      statement.offset = request.offset.filter fun offset => 0 < offset := by
  have hNarrowsNothing : ∀ predicate, resolver.modifier = .narrow predicate →
      predicate.Writable := by
    intro predicate hNarrow
    rcases hModifier with hKeep | ⟨scope, hScope⟩
    · rw [hKeep] at hNarrow
      cases hNarrow
    · rw [hScope] at hNarrow
      cases hNarrow
  obtain ⟨select, hDrafted, hFinish, -⟩ := exists_drafted_of_prepareList h
  obtain ⟨hReadable, hSays⟩ := says_of_prepareList hSchema h
  obtain ⟨statement, hRead⟩ :=
    hReadable (hDrafted.modify hNarrowsNothing (finish_eq_ok hFinish).1).filters
  obtain ⟨-, -, -, hLimit, hOffset⟩ := hSays statement hRead
  obtain ⟨-, page, base, searched, hPage, -, -, hFinish⟩ := prepareList_eq_ok h
  have hExtends := Select.extends_of_modify (finish_eq_ok hFinish).1
  have hNatural := ListRequest.page_nonneg hPage
  obtain rfl := ListRequest.page_eq_ok hPage
  refine ⟨statement, hRead, hLimit.trans hExtends.limit, hNatural.1, ?_⟩
  rw [hOffset, Select.shownOffset, hExtends.offset]
  show (if 0 < request.offset.getD 0 then some (request.offset.getD 0) else none) = _
  cases request.offset with
  | none => rfl
  | some offset => by_cases hPositive : 0 < offset <;> simp [Option.filter, hPositive]

/-- **A list request is refused for the first cause that there is.**  A resolver that was made for a
store refuses a request exactly for what its checks, in their order, refuse first; so it is always
the request that is at fault.  If no check refuses it there is a statement, which has the limit that
is granted, between zero and the greatest one, and the offset that was asked for unless that is
zero. -/
theorem refuses_for_first_cause {store : Store} {config : SearchConfig} {made : Resolver}
    (hMade : (create store config).outcome = .ok made) {modifier : Modifier}
    (hModifier : modifier = .keep ∨ ∃ scope, modifier = .scope scope)
    {declaration : Declaration} {schema : Schema}
    (hSchema : Schema.ofDeclaration declaration = .ok schema) (request : ListRequest) :
    let resolver : Resolver := { made with modifier }
    (∀ fault, (resolver.prepareList schema request).outcome = .error fault ↔
      FirstRefusal (resolver.Refuses schema request) Check.inOrder fault) ∧
    ((∃ prepared, (resolver.prepareList schema request).outcome = .ok prepared) ↔
      ∀ check fault, ¬ resolver.Refuses schema request check fault) ∧
    (∀ prepared, (resolver.prepareList schema request).outcome = .ok prepared →
      ∃ statement, prepared.fragment.read? store.dialect = some statement ∧
        statement.limit = some (request.grantedLimit config) ∧
        0 ≤ request.grantedLimit config ∧ request.grantedLimit config ≤ config.maxLimit ∧
        statement.offset = request.offset.filter fun offset => 0 < offset) ∧
    ∀ fault, (resolver.prepareList schema request).outcome = .error fault →
      fault.isRequestError = true := by
  intro resolver
  obtain ⟨_, hConfig, hMade⟩ := Logged.outcome_bind_eq_ok.mp hMade
  obtain ⟨compiler, hCompiler, hMade⟩ := Logged.outcome_bind_eq_ok.mp hMade
  rw [Logged.outcome_mapError, mapError_eq_ok] at hCompiler
  obtain rfl := Except.ok.inj hMade
  have hValid := Schema.valid_of_ofDeclaration hSchema
  have hRefused := @refusedBy_prepareList resolver schema
    (Compiler.sound_of_create hCompiler) hModifier hValid
    (Schema.searchable_record_of_ofDeclaration hSchema) request
  have hDialect : compiler.dialect = store.dialect := by
    obtain ⟨_, -, hCompiler⟩ := Logged.outcome_bind_eq_ok.mp hCompiler
    obtain rfl := Except.ok.inj hCompiler
    rfl
  have hBounds := SearchConfig.defaultLimit_le_maxLimit (mapError_eq_ok.mp hConfig)
  refine ⟨hRefused, ?_, fun prepared h => ?_, fun fault h => ?_⟩
  · rw [hRefused.exists_ok_iff]
    have hEvery : ∀ check, check ∈ Check.inOrder := by
      intro check
      cases check <;> decide
    exact forall_congr' fun check => forall_prop_of_true (hEvery check)
  · obtain ⟨statement, hRead, hLimit, hNatural, hOffset⟩ :=
      exists_read?_of_prepareList hSchema hModifier h
    rw [← hDialect]
    exact ⟨statement, hRead, hLimit, hNatural, ListRequest.grantedLimit_le hBounds, hOffset⟩
  · obtain ⟨check, -, hRefuses⟩ := ((hRefused fault).mp h).exists_refuses
    exact hRefuses.isRequestError

/-- A request with an id that is no integer, a negative offset, a field that is not searchable and a
scope on a missing column is refused for its offset; one that asks for too much gets what there is
to get. -/
theorem refuses_for_first_cause_of_offset :
    let store : Store := .file { path := ":memory:" }
    let club : Scope := { column := "club", value := .integer 7 }
    let request : ListRequest :=
      { ids := some [.text "seven"], offset := some (-3), terms := some (.ofList [("team", none)]) }
    let greedy : ListRequest := { limit := some 9223372036854775807, offset := some 0 }
    ∃ made, (create store {}).outcome = .ok made ∧
      ({ made with modifier := .scope club }.prepareList .heroes request).outcome =
        .error (.query (.invalidPaging "offset" (-3))) ∧
      ∃ prepared, ({ made with modifier := .scope { club with lenient := true } }.prepareList
          .heroes greedy).outcome = .ok prepared ∧
        ∃ statement, prepared.fragment.read? .sqlite = some statement ∧
          statement.limit = some 1000 ∧ statement.offset = none := by
  intro store club request greedy
  have hMade : (create store {}).outcome = .ok ⟨{}, ⟨.generic, .sqlite, none⟩, .keep⟩ := rfl
  obtain ⟨hRefused, -⟩ :=
    refuses_for_first_cause hMade (.inr ⟨club, rfl⟩) Schema.ofDeclaration_heroes request
  obtain ⟨-, hAccepted, hGranted, -⟩ := refuses_for_first_cause hMade
    (.inr ⟨{ club with lenient := true }, rfl⟩) Schema.ofDeclaration_heroes greedy
  refine ⟨_, hMade, (hRefused _).mpr ?_, ?_⟩
  · refine .later (fun other h => ?_) (.later (fun other h => ?_) (.here (.offset rfl (by decide))))
    · cases h with
      | unlisted noIds => cases noIds
    · cases h with
      | limit asked => cases asked
  · have hClub : ∀ column ∈ Schema.heroes.columns, column.name ≠ "club" := by decide
    obtain ⟨prepared, hPrepared⟩ := hAccepted.mpr fun check fault h => by
      cases h with
      | unlisted noIds closed => cases closed
      | limit asked negative =>
          obtain rfl := Option.some.inj asked
          exact absurd negative (by decide)
      | offset asked negative =>
          obtain rfl := Option.some.inj asked
          exact absurd negative (by decide)
      | id given => cases given
      | field given => cases given
      | unscoped confined missing strict =>
          obtain rfl := Modifier.scope.inj confined
          cases strict
      | value confined mem named unfit =>
          obtain rfl := Modifier.scope.inj confined
          exact hClub _ mem named
    obtain ⟨statement, hRead, hLimit, -, -, hOffset⟩ := hGranted prepared hPrepared
    exact ⟨prepared, hPrepared, statement, hRead, hLimit, hOffset⟩

end Resolver
end FieldSearch
