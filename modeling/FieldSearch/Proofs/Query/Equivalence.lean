import FieldSearch.Proofs.Query.Causes
import FieldSearch.Proofs.Search.Agreement
import Mathlib

/-!
# Requests that ask for the same

Two requests may be written differently and ask for the same.  A field that is named
without a term is not searched, so a request is no other without it; where no field is
left, it is one without terms.  What a field is named for does not matter, though, as long
as it is not searchable: it is refused even without a term.

A record can be asked for by its id, or by a list of ids that has no other and a page of
one record.  The two are prepared in different ways, and they come to the same statement
or the same fault.

## Main results

* `Compiler.compile_congr`: terms are compiled by what they give for each field.
* `blank_terms_are_invisible`: fields that are named without a term.
* `lookup_eq_listing_of_one`: a lookup and the list of one id.
-/

namespace FieldSearch

/-- The map without the entries that fail a test. -/
def KeyMap.filter {α : Type} (p : String × α → Bool) (map : KeyMap α) : KeyMap α :=
  ⟨map.entries.filter p, map.rising.filter p⟩

namespace TermSet

/-- The set without the fields whose term is absent or empty. -/
def withoutBlank (set : TermSet) : TermSet :=
  ⟨set.terms.filter fun entry => decide (entry.2 ≠ none ∧ entry.2 ≠ some "")⟩

theorem gives_withoutBlank_iff {set : TermSet} {field term : String} :
    set.withoutBlank.Gives field term ↔ set.Gives field term := by
  rw [Gives, withoutBlank, KeyMap.filter, List.mem_filter, decide_eq_true_eq]
  constructor
  · rintro ⟨⟨hMem, -⟩, hNe⟩
    exact ⟨hMem, hNe⟩
  · rintro ⟨hMem, hNe⟩
    exact ⟨⟨hMem, Option.some_ne_none term, fun hSame => hNe (Option.some.inj hSame)⟩, hNe⟩

/-- **A field has the same term when the others without a term are gone.** -/
theorem term?_withoutBlank (set : TermSet) (field : String) :
    set.withoutBlank.term? field = set.term? field := by
  refine Option.ext fun term => ?_
  rw [term?_eq_some_iff, term?_eq_some_iff, gives_withoutBlank_iff]

theorem mem_fields_of_withoutBlank {set : TermSet} {field : String}
    (h : field ∈ set.withoutBlank.fields) : field ∈ set.fields := by
  obtain ⟨entry, hEntry, rfl⟩ := List.mem_map.mp h
  exact List.mem_map_of_mem (List.mem_filter.mp hEntry).1

theorem hasTerms_congr {left right : TermSet}
    (h : ∀ field, left.term? field = right.term? field) : left.hasTerms = right.hasTerms := by
  rw [Bool.eq_iff_iff, hasTerms_iff_exists_gives, hasTerms_iff_exists_gives]
  simp only [← term?_eq_some_iff, h]

theorem hasTerms_of_withoutBlank_isEmpty {set : TermSet} (h : set.withoutBlank.isEmpty = true) :
    set.hasTerms = false := by
  have hNone : set.withoutBlank.terms.entries = [] := List.isEmpty_iff.mp h
  rw [← hasTerms_congr set.term?_withoutBlank, hasTerms, effective, hNone]
  rfl

end TermSet

theorem FieldSet.check_withoutBlank {set : FieldSet} {terms : TermSet}
    (h : set.check terms = .ok ()) : set.check terms.withoutBlank = .ok () := by
  rw [check_eq_ok_iff] at h ⊢
  exact fun field hMem => h field (TermSet.mem_fields_of_withoutBlank hMem)

/-! ## Terms that are compiled -/

theorem Predicate.forTerms_congr {fields : FieldSet} {left right : TermSet} {strategy : Strategy}
    (hLeft : fields.check left = .ok ()) (hRight : fields.check right = .ok ())
    (h : ∀ field, left.term? field = right.term? field) :
    forTerms fields left strategy = forTerms fields right strategy := by
  have hSearched : searched fields left strategy = searched fields right strategy := by
    simp only [searched, h]
  rw [forTerms_of_check hLeft, forTerms_of_check hRight, TermSet.hasTerms_congr h, hSearched]

theorem Sorting.forTerms_congr {fields : FieldSet} {left right : TermSet} (primaryKey : String)
    (hLeft : fields.check left = .ok ()) (hRight : fields.check right = .ok ())
    (h : ∀ field, left.term? field = right.term? field) :
    forTerms fields left primaryKey = forTerms fields right primaryKey := by
  have hRanked : ranked fields left = ranked fields right := by
    simp only [ranked, h]
  rw [forTerms, forTerms, hLeft, hRight, hRanked]

namespace Compiler

variable {compiler : Compiler} {schema : Schema}

/-- **Accepted terms are compiled by what they give for each field**, the report included. -/
theorem compile_congr {left right : TermSet} (hLeft : schema.searchable.check left = .ok ())
    (hRight : schema.searchable.check right = .ok ())
    (h : ∀ field, left.term? field = right.term? field) :
    compiler.compile schema left = compiler.compile schema right := by
  have hSame : compiler.compileTerms schema left = compiler.compileTerms schema right := by
    rw [compileTerms, compileTerms, Predicate.forTerms_congr hLeft hRight h,
      Sorting.forTerms_congr _ hLeft hRight h]
  rw [compile, compile, hSame]

theorem compile_withoutBlank {terms : TermSet} (h : schema.searchable.check terms = .ok ()) :
    compiler.compile schema terms.withoutBlank = compiler.compile schema terms :=
  compile_congr (FieldSet.check_withoutBlank h) h terms.term?_withoutBlank

/-- Where no field has a term, nothing is looked for and nothing ranked. -/
theorem compileTerms_of_hasTerms {terms : TermSet} (h : schema.searchable.check terms = .ok ())
    (hNone : terms.hasTerms = false) :
    compiler.compileTerms schema terms = .ok ⟨.always, none⟩ := by
  obtain ⟨⟨predicate, sorting⟩, hCompiled⟩ := @exists_compileTerms compiler schema terms h
  obtain ⟨-, hPredicate, hSorting⟩ := compileTerms_eq_ok hCompiled
  rw [hNone, if_neg Bool.false_ne_true] at hPredicate
  rw [Sorting.ranked_eq_nil_of_hasTerms hNone, Sorting.ofRanked, ite_self] at hSorting
  rw [hCompiled, ← hPredicate, ← hSorting]

end Compiler

/-! ## Requests without blank terms -/

namespace Resolver

variable {resolver : Resolver} {schema : Schema} {request : ListRequest} {terms : TermSet}

theorem prepareList_withoutBlank (h : schema.searchable.check terms = .ok ()) :
    resolver.prepareList schema { request with terms := some terms.withoutBlank } =
      resolver.prepareList schema { request with terms := some terms } := by
  simp only [prepareList, ListRequest.page, withTerms, Compiler.compile_withoutBlank h]

/-- Terms of which none is given are the same as no terms. -/
theorem outcome_prepareList_of_hasTerms (h : schema.searchable.check terms = .ok ())
    (hNone : terms.hasTerms = false) :
    (resolver.prepareList schema { request with terms := none }).outcome =
      (resolver.prepareList schema { request with terms := some terms }).outcome := by
  have hTerms : ∀ select, (resolver.withTerms schema select none).outcome =
      (resolver.withTerms schema select (some terms)).outcome := by
    intro select
    rw [withTerms, withTerms, Logged.outcome_bind, Compiler.outcome_compile,
      Compiler.compileTerms_of_hasTerms h hNone]
    rfl
  simp only [outcome_prepareList, hTerms]
  rfl

/-- **A request that names a field which is not searchable is refused for it**, unless it is refused
before its terms are looked at. -/
theorem prepareList_of_misses {field : String} (h : schema.searchable.Misses terms field)
    (hTerms : request.terms = some terms)
    (hPassed : ∀ check ∈ [.listing, .limit, .offset, .ids], ∀ fault,
      ¬ resolver.Refuses schema request check fault) :
    (resolver.prepareList schema request).outcome =
      .error (.search (schema.searchable.undeclared field)) := by
  simp only [List.forall_mem_cons, List.not_mem_nil, false_imp_iff, implies_true, and_true]
    at hPassed
  obtain ⟨hListing, hLimit, hOffset, hIds⟩ := hPassed
  have hCheck := FieldSet.check_eq_error_iff.mpr ⟨field, h, rfl⟩
  -- Each of the checks before the terms lets the request pass.
  obtain ⟨_, hListing⟩ := (RefusedBy.single fun _ => listing_eq_error_iff).exists_ok_iff.mpr
    (List.forall_mem_singleton.mpr hListing)
  obtain ⟨limit, hLimit⟩ := (RefusedBy.single fun _ => settleLimit_eq_error_iff).exists_ok_iff.mpr
    (List.forall_mem_singleton.mpr hLimit)
  obtain ⟨offset, hOffset⟩ :=
    (RefusedBy.single fun _ => settleOffset_eq_error_iff).exists_ok_iff.mpr
      (List.forall_mem_singleton.mpr hOffset)
  obtain ⟨base, hBase⟩ := (RefusedBy.single fun _ =>
    @withIds_eq_error_iff resolver schema request _ (.ofSchema schema)).exists_ok_iff.mpr
      (List.forall_mem_singleton.mpr hIds)
  have hRefused : (resolver.withTerms schema base request.terms).outcome =
      .error (schema.searchable.undeclared field) := withTerms_eq_error.mpr ⟨terms, hTerms, hCheck⟩
  rw [outcome_prepareList]
  refine bind_eq_error.mpr (.inr ⟨_, hListing, bind_eq_error.mpr (.inr ⟨limit, hLimit, ?_⟩)⟩)
  refine bind_eq_error.mpr (.inr ⟨offset, hOffset, bind_eq_error.mpr (.inr ⟨base, hBase, ?_⟩)⟩)
  exact bind_eq_error.mpr (.inl (mapError_eq_error.mpr ⟨_, hRefused, rfl⟩))

theorem prepareList_ne_ok_of_misses {field : String} (h : schema.searchable.Misses terms field)
    (hTerms : request.terms = some terms) (prepared : Prepared) :
    (resolver.prepareList schema request).outcome ≠ .ok prepared := by
  intro hPrepared
  obtain ⟨-, -, base, searched, -, -, hSearched, -⟩ := prepareList_eq_ok hPrepared
  rw [withTerms_eq_error.mpr ⟨terms, hTerms, FieldSet.check_eq_error_iff.mpr ⟨field, h, rfl⟩⟩]
    at hSearched
  cases hSearched

/-- **Blank terms are invisible.**  As long as a term set names searchable fields only, it is
compiled to the same condition and the same order without the fields that have no term, and a
request with it is prepared, or refused, as it is without them; if no field is left, it is a request
without terms.
A field that is not searchable is refused all the same, with whatever term it is named. -/
theorem blank_terms_are_invisible (resolver : Resolver) (schema : Schema) (request : ListRequest)
    (terms : TermSet) :
    ((∀ field ∈ terms.fields, field ∈ schema.searchable.fields) →
      (∀ compiler : Compiler,
        compiler.compile schema terms.withoutBlank = compiler.compile schema terms) ∧
      resolver.prepareList schema { request with terms := some terms.withoutBlank } =
        resolver.prepareList schema { request with terms := some terms } ∧
      (terms.withoutBlank.isEmpty = true →
        (resolver.prepareList schema { request with terms := none }).outcome =
          (resolver.prepareList schema { request with terms := some terms }).outcome)) ∧
    ((∃ field ∈ terms.fields, field ∉ schema.searchable.fields) →
      ∃ field, IsLeast {name | name ∈ terms.fields ∧ name ∉ schema.searchable.fields} field ∧
        (∀ compiler : Compiler, (compiler.compile schema terms).outcome =
          .error (.invalidSearchField schema.searchable.record field)) ∧
        (∀ prepared, (resolver.prepareList schema { request with terms := some terms }).outcome ≠
          .ok prepared) ∧
        ((∀ check ∈ [.listing, .limit, .offset, .ids], ∀ fault,
            ¬ resolver.Refuses schema { request with terms := some terms } check fault) →
          (resolver.prepareList schema { request with terms := some terms }).outcome =
            .error (.search (.invalidSearchField schema.searchable.record field)))) := by
  constructor
  · intro hDeclared
    have hCheck : schema.searchable.check terms = .ok () :=
      FieldSet.check_eq_ok_iff.mpr fun field hMem =>
        FieldSet.contains_iff.mpr (hDeclared field hMem)
    exact ⟨fun compiler => Compiler.compile_withoutBlank hCheck, prepareList_withoutBlank hCheck,
      fun hEmpty => outcome_prepareList_of_hasTerms hCheck
        (TermSet.hasTerms_of_withoutBlank_isEmpty hEmpty)⟩
  · rintro ⟨name, hMem, hNot⟩
    have hRefused : schema.searchable.check terms ≠ .ok () := fun hCheck =>
      hNot (FieldSet.contains_iff.mp (FieldSet.check_eq_ok_iff.mp hCheck name hMem))
    cases hCheck : schema.searchable.check terms with
    | ok passed => exact absurd hCheck hRefused
    | error fault =>
        obtain ⟨field, hMisses, rfl⟩ := FieldSet.check_eq_error_iff.mp hCheck
        refine ⟨field, hMisses, fun compiler => ?_, prepareList_ne_ok_of_misses hMisses rfl,
          prepareList_of_misses hMisses rfl⟩
        rw [Compiler.outcome_compile, Compiler.compileTerms_eq_error, hCheck]
        rfl

/-- An empty term beside another one, two fields without a term, and one that is not searchable. -/
theorem blank_terms_are_invisible_of_heroes :
    let resolver : Resolver := { config := {}, compiler := ⟨.fullTextPrefix, .postgres, none⟩ }
    let terms : TermSet := .ofList [("alias", some ""), ("name", some "bat")]
    let blank : TermSet := .ofList [("alias", none), ("name", some "")]
    let foreign : TermSet := .ofList [("alias", none), ("team", none)]
    resolver.prepareList .heroes
        { limit := some 5, terms := some (.ofList [("name", some "bat")]) } =
      resolver.prepareList .heroes { limit := some 5, terms := some terms } ∧
    (resolver.prepareList .heroes { limit := some 5 }).outcome =
      (resolver.prepareList .heroes { limit := some 5, terms := some blank }).outcome ∧
    (resolver.prepareList .heroes { limit := some 5, terms := some foreign }).outcome =
      .error (.search (.invalidSearchField "Hero" "team")) := by
  intro resolver terms blank foreign
  have hTerms := blank_terms_are_invisible resolver .heroes { limit := some 5 } terms
  have hBlank := blank_terms_are_invisible resolver .heroes { limit := some 5 } blank
  have hForeign := blank_terms_are_invisible resolver .heroes { limit := some 5 } foreign
  refine ⟨(hTerms.1 (by decide)).2.1, (hBlank.1 (by decide)).2.2 rfl, ?_⟩
  obtain ⟨field, ⟨⟨hMem, hNot⟩, -⟩, -, -, hRefused⟩ := hForeign.2 ⟨"team", by decide, by decide⟩
  obtain rfl : field = "team" := by
    have hNames : ∀ name ∈ foreign.fields, name ∉ Schema.heroes.searchable.fields →
        name = "team" := by decide
    exact hNames field hMem hNot
  refine hRefused fun check hCheck fault hRefuses => ?_
  cases hRefuses with
  | unlisted noIds closed => cases closed
  | limit asked negative =>
      obtain rfl := Option.some.inj asked
      exact absurd negative (by decide)
  | offset asked negative => cases asked
  | id given mem unfit => cases given
  | _ => simp at hCheck

/-! ## Lookups -/

/-- What becomes of a lookup: its id is made a filter, and the selection is finished. -/
theorem prepareId_eq (resolver : Resolver) (schema : Schema) (id : RecordId) :
    resolver.prepareId schema id = (do
      let base ← (withIds schema (.ofSchema schema) (some [id])).mapError .query
      resolver.finish schema (base.page 1 0)) := by
  rw [prepareId, lookupSelect, withIds]
  cases idFilter schema [id] <;> rfl

/-- **A lookup is prepared like the list of one id.** -/
theorem prepareId_eq_outcome_prepareList (h : 0 < resolver.config.maxLimit) (id : RecordId) :
    resolver.prepareId schema id =
      (resolver.prepareList schema { ids := some [id], limit := some 1 }).outcome := by
  have hOne : (ListRequest.settleLimit resolver.config (some 1)).outcome = .ok 1 :=
    ListRequest.settleLimit_of_le (by decide) (by omega)
  rw [outcome_prepareList, hOne, prepareId_eq]
  rfl

/-- The checks of a lookup, in their order: its id, and the scope. -/
theorem refusedBy_prepareId
    (hModifier : resolver.modifier = .keep ∨ ∃ scope, resolver.modifier = .scope scope)
    (hValid : schema.Valid) {id : RecordId} (hIds : request.ids = some [id]) :
    RefusedBy (resolver.Refuses schema request) [.ids, .scope] (resolver.prepareId schema id) := by
  rw [prepareId_eq, ← hIds]
  refine .bind (fun _ => withIds_eq_error_iff) fun base hBase => ?_
  have hExpressible : base.Expressible resolver.compiler.dialect :=
    expressible_withIds (Select.expressible_ofSchema _ schema) (mapError_eq_ok.mp hBase)
  exact .single fun _ => finish_eq_error_iff hModifier hValid (hExpressible.page 1 0)

/-- **A lookup is a list of one id.**  A resolver that was made for a store prepares a lookup and
the request for a page of one record that lists the id alone to the same selection and the same
statement, or it refuses both with the same fault, whether or not the record type may be listed
without ids and however small the greatest page is.  It refuses them for an id that does not fit the
key, and then for the scope, and for nothing else. -/
theorem lookup_eq_listing_of_one {store : Store} {config : SearchConfig} {made : Resolver}
    (hMade : (create store config).outcome = .ok made) {modifier : Modifier}
    (hModifier : modifier = .keep ∨ ∃ scope, modifier = .scope scope)
    {declaration : Declaration} {schema : Schema}
    (hSchema : Schema.ofDeclaration declaration = .ok schema) (id : RecordId) :
    let resolver : Resolver := { made with modifier }
    let request : ListRequest := { ids := some [id], limit := some 1 }
    (resolver.prepareLookup schema id).outcome = (resolver.prepareList schema request).outcome ∧
      ∀ fault, (resolver.prepareLookup schema id).outcome = .error fault ↔
        FirstRefusal (resolver.Refuses schema request) [.ids, .scope] fault := by
  intro resolver request
  obtain ⟨_, hConfig, hMade⟩ := Logged.outcome_bind_eq_ok.mp hMade
  obtain ⟨compiler, -, hMade⟩ := Logged.outcome_bind_eq_ok.mp hMade
  obtain rfl := Except.ok.inj hMade
  have hPositive := SearchConfig.maxLimit_pos (mapError_eq_ok.mp hConfig)
  rw [outcome_prepareLookup]
  exact ⟨prepareId_eq_outcome_prepareList hPositive id,
    refusedBy_prepareId hModifier (Schema.valid_of_ofDeclaration hSchema) rfl⟩

/-- A vault, which cannot be listed without its id, under a configuration that grants one record at
a time: an id that is a number is asked for, another one is refused, and so is a scope on clubs. -/
theorem lookup_eq_listing_of_one_vault :
    let store : Store := .file { path := ":memory:" }
    let club : Scope := { column := "club", value := .null }
    let request (id : String) : ListRequest := { ids := some [.text id], limit := some 1 }
    ∃ made, (create store { defaultLimit := 1, maxLimit := 1 }).outcome = .ok made ∧
      (∃ prepared, (made.prepareLookup .vaults (.text "7")).outcome = .ok prepared ∧
        (made.prepareList .vaults (request "7")).outcome = .ok prepared) ∧
      (∃ fault, (made.prepareLookup .vaults (.text "seven")).outcome = .error fault ∧
        (made.prepareList .vaults (request "seven")).outcome = .error fault) ∧
      ({ made with modifier := .scope club }.prepareLookup .vaults (.text "7")).outcome =
        .error (.query (.rejected "Vault" "not scoped by 'club'")) := by
  intro store club request
  have hMade : (create store { defaultLimit := 1, maxLimit := 1 }).outcome =
      .ok ⟨{ defaultLimit := 1, maxLimit := 1 }, ⟨.generic, .sqlite, none⟩, .keep⟩ := rfl
  have hKept (id : RecordId) :=
    (lookup_eq_listing_of_one hMade (.inl rfl) Schema.ofDeclaration_vaults id).1
  obtain ⟨-, hRefused⟩ := lookup_eq_listing_of_one hMade (.inr ⟨club, rfl⟩)
    Schema.ofDeclaration_vaults (.text "7")
  have hReason : "not scoped by '" ++ club.column ++ "'" = "not scoped by 'club'" := rfl
  rw [← hReason]
  refine ⟨_, hMade, ⟨_, rfl, (hKept (.text "7")).symm⟩, ⟨_, rfl, (hKept (.text "seven")).symm⟩,
    (hRefused _).mpr (.later (fun other hRefuses => ?_) (.here (.unscoped rfl ?_ rfl)))⟩
  · cases hRefuses with
    | id given mem unfit =>
        obtain rfl := Option.some.inj given
        obtain rfl := List.mem_singleton.mp mem
        cases unfit
  · exact List.forall_mem_singleton.mpr (by decide)

end Resolver
end FieldSearch
