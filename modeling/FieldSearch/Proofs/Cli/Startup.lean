import FieldSearch.Proofs.Cli.Folder
import FieldSearch.Proofs.Store.Bootstrap
import Mathlib

/-!
# Runs that fail for their strategy

Whether the strategy of a run can be carried out follows from its options and its
backend.  A run finds out before it answers its request, but after it has stored its
seed records.  A run that fails for its strategy therefore leaves a table and records
behind, and the same run with the strategy put right fails for their keys.  Without
seed records the database is left as it was, and nothing that it held is ever lost.

## Main results

* `create_file_eq_error_iff`: which configurations a database cannot serve.
* `seed_becomes`: what seeding makes of a store.
* `run_of_unresolved`: what a run comes to that fails for its strategy.
* `run_of_seeded_vault`: one that has stored a record by then.
-/

namespace FieldSearch

open Database (Table)

/-- **Which configurations a database cannot serve**: those that have problems, and full text
search. -/
theorem Resolver.create_file_eq_error_iff {files : FileStore} {config : SearchConfig}
    {error : StorageError} :
    (create (.file files) config).outcome = .error error ↔
      config.problems ≠ [] ∧ error = .config ⟨config.problems⟩ ∨
        config.problems = [] ∧ config.strategy = .fixed .fullTextPrefix ∧
          error = .search (.unsupportedStrategy Strategy.fullTextPrefix.name
            Backend.sqlite.name) := by
  rw [create, Logged.outcome_bind, Logged.outcome_of, SearchConfig.validate]
  cases hProblems : config.problems with
  | cons problem problems =>
      refine ⟨fun h => .inl ⟨List.cons_ne_nil _ _, (Except.error.inj h).symm⟩, ?_⟩
      rintro (⟨-, rfl⟩ | ⟨hNil, -⟩)
      · rfl
      · cases hNil
  | nil =>
      rw [List.isEmpty_nil, if_pos rfl]
      obtain ⟨strategy, textSearchConfig, defaultLimit, maxLimit⟩ := config
      by_cases hFull : strategy = .fixed .fullTextPrefix
      · subst hFull
        refine ⟨fun h => .inr ⟨rfl, rfl, (Except.error.inj h).symm⟩, ?_⟩
        rintro (⟨hSome, -⟩ | ⟨-, -, rfl⟩)
        · exact absurd rfl hSome
        · rfl
      · refine iff_of_false (fun h => ?_) ?_
        · rcases strategy with _ | _ | _
          · cases h
          · cases h
          · exact hFull rfl
        · rintro (⟨hSome, -⟩ | ⟨-, hStrategy, -⟩)
          · exact hSome rfl
          · exact hFull hStrategy

namespace Cli

variable {folder : Folder} {options : Options} {schema : Schema}

/-! ## Seeding -/

/-- The first of the records is stored. -/
def TakesFirst (schema : Schema) (store : Store) (records : List Record) : Prop :=
  ∃ record rest, records = record :: rest ∧ (store.insert schema record).1 = .ok ()

/-- Seeding adds to the database of a store: the table has to be created and can be, or it is there
and the first record is stored. -/
def SeedAdds (folder : Folder) (options : Options) (schema : Schema) (files : FileStore) : Prop :=
  ∃ path records start, options.seed = some path ∧ loadSeed folder path = .ok records ∧
    (Store.file files).ensureTable schema = (.ok (), start) ∧
    (files.database.table? schema.table = none ∨ TakesFirst schema start records)

/-- What inserting records one by one makes of a store. -/
theorem insertAll_becomes (schema : Schema) (records : List Record) :
    ∀ files : FileStore, ∃ result last,
      insertAll schema (.file files) records = (result, .file last) ∧ files.Becomes last ∧
        (last.database = files.database ↔ ¬ TakesFirst schema (.file files) records) := by
  induction records with
  | nil =>
      intro files
      exact ⟨_, files, rfl, .refl files, iff_of_true rfl nofun⟩
  | cons record rest ih =>
      intro files
      obtain ⟨result, next, hInsert, hNext, hSame⟩ := files.becomes_insert schema record
      have hTakes : TakesFirst schema (.file files) (record :: rest) ↔ result = .ok () := by
        rw [TakesFirst]
        simp [hInsert]
      rw [insertAll, hInsert, hTakes]
      cases result with
      | error error => exact ⟨_, next, rfl, hNext, hSame⟩
      | ok _ =>
          obtain ⟨result, last, hRest, hLast, -⟩ := ih next
          refine ⟨result, last, hRest, hNext.trans hLast, iff_of_false (fun hBack => ?_) ?_⟩
          · -- What was stored is not undone by the records that follow.
            exact hSame.mp (hNext.grows.eq_of_eq hLast.grows hBack) rfl
          · exact fun h => h rfl

/-- **What seeding makes of a store**: its database becomes another one just if seeding adds to
it. -/
theorem seed_becomes (folder : Folder) (options : Options) (schema : Schema) (files : FileStore) :
    ∃ result last, seed folder options schema (.file files) = (result, .file last) ∧
      files.Becomes last ∧
        (last.database = files.database ↔ ¬ SeedAdds folder options schema files) := by
  rw [seed, SeedAdds]
  cases hSeed : options.seed with
  | none => exact ⟨_, files, rfl, .refl files, iff_of_true rfl (by simp)⟩
  | some path =>
      dsimp only
      cases hLoad : loadSeed folder path with
      | error failure => exact ⟨_, files, rfl, .refl files, iff_of_true rfl (by simp [hLoad])⟩
      | ok records =>
          obtain ⟨made, next, hMake, hNext, hNew⟩ := files.becomes_ensureTable schema
          dsimp only
          rw [hMake]
          cases made with
          | error error =>
              exact ⟨_, next, rfl, hNext, iff_of_true (hNew.mpr nofun) (by simp)⟩
          | ok _ =>
              obtain ⟨result, last, hInsert, hLast, hTakes⟩ := insertAll_becomes schema records next
              refine ⟨result.mapError .ofStorage, last, ?_, hNext.trans hLast, ?_⟩
              · dsimp only
                rw [hInsert]
              · -- The database is the same in the end if no step has changed it.
                have hSteps : last.database = files.database ↔
                    next.database = files.database ∧ last.database = next.database := by
                  refine ⟨fun hBack => ?_, fun h => h.2.trans h.1⟩
                  have hMade := hNext.grows.eq_of_eq hLast.grows hBack
                  exact ⟨hMade, hBack.trans hMade.symm⟩
                rw [hSteps, hNew, hTakes]
                simp [hLoad]

/-! ## Runs -/

/-- The store that a run opens: the one of its path, which can be opened. -/
theorem openStore_eq_ok {files : FileStore} (hBackend : options.backend = .sqlite)
    (h : openStore folder options = .ok files) :
    files = folder.store options.databasePath ∧
      (folder.store options.databasePath).refusal = none := by
  rw [openStore, hBackend] at h
  have hIdle : (folder.store options.databasePath).pool.idle = 1 := by
    rw [FileStore.pool, Folder.options_store]
    cases (folder.store options.databasePath).inMemory <;> rfl
  obtain ⟨hSame, hReachable⟩ :=
    FileStore.open?_eq_ok (hIdle ▸ Nat.one_pos) (mapError_eq_ok.mp h)
  exact ⟨hSame, Option.isNone_iff_eq_none.mp (Bool.and_eq_true_iff.mp hReachable).1⟩

/-- The failure of a run whose strategy cannot be carried out, once it has seeded its store. -/
def failureAfter (error : StorageError) : Except Failure Unit → Failure
  | .error failure => failure
  | .ok () => .ofStorage error

/-- **How far a run gets whose strategy cannot be carried out**: it fails before it has changed
anything, or its store is saved as seeding has left it. -/
theorem execute_of_unresolved {error : StorageError} (hBackend : options.backend = .sqlite)
    (hUnresolved : (Resolver.create (.file (folder.store options.databasePath))
      options.searchConfig).outcome = .error error) :
    (∃ failure, execute folder options = (.error failure, folder) ∧
        ∀ schema files, loadSchema folder options.schema = .ok schema →
          openStore folder options ≠ .ok files) ∨
      ∃ schema result last, loadSchema folder options.schema = .ok schema ∧
        openStore folder options = .ok (folder.store options.databasePath) ∧
        seed folder options schema (.file (folder.store options.databasePath)) =
          (result, .file last) ∧
        execute folder options = (.error (failureAfter error result), folder.save last) := by
  rw [execute]
  cases hSchema : loadSchema folder options.schema with
  | error failure => exact .inl ⟨failure, rfl, fun _ _ hLoaded => nomatch hLoaded⟩
  | ok schema =>
      dsimp only
      cases hStore : openStore folder options with
      | error failure => exact .inl ⟨failure, rfl, fun _ _ _ hOpened => nomatch hOpened⟩
      | ok files =>
          obtain ⟨rfl, -⟩ := openStore_eq_ok hBackend hStore
          obtain ⟨result, last, hSeed, -, -⟩ :=
            seed_becomes folder options schema (folder.store options.databasePath)
          refine .inr ⟨schema, result, last, rfl, rfl, hSeed, ?_⟩
          dsimp only
          rw [hSeed]
          cases result with
          | error failure => rfl
          | ok _ =>
              -- Whether the strategy can be carried out does not depend on what is stored.
              have hStill : (Resolver.create (.file last) options.searchConfig).outcome =
                  .error error :=
                Resolver.create_file_eq_error_iff.mpr
                  (Resolver.create_file_eq_error_iff.mp hUnresolved)
              have hRespond : respond options schema (.file last) = .error error := by
                rw [respond, hStill]
                rfl
              dsimp only
              rw [hRespond]
              rfl

/-- A run gets so far as to seed its store, which adds to the database, and the database is kept. -/
def RunAdds (folder : Folder) (options : Options) : Prop :=
  options.problems = [] ∧ (folder.store options.databasePath).IsKept ∧
    ∃ schema, loadSchema folder options.schema = .ok schema ∧
      openStore folder options = .ok (folder.store options.databasePath) ∧
      SeedAdds folder options schema (folder.store options.databasePath)

theorem runAdds_iff (hProblems : options.problems = [])
    (hSchema : loadSchema folder options.schema = .ok schema)
    (hStore : openStore folder options = .ok (folder.store options.databasePath)) :
    RunAdds folder options ↔ (folder.store options.databasePath).IsKept ∧
      SeedAdds folder options schema (folder.store options.databasePath) := by
  constructor
  · rintro ⟨-, hIsKept, other, hOther, -, hAdds⟩
    obtain rfl := Except.ok.inj (hOther.symm.trans hSchema)
    exact ⟨hIsKept, hAdds⟩
  · rintro ⟨hIsKept, hAdds⟩
    exact ⟨hProblems, hIsKept, schema, hSchema, hStore, hAdds⟩

/-- What a run comes to that fails for its strategy, in what it reports and in what is found of its
database afterwards. -/
structure Unstarted (folder : Folder) (options : Options) (error : StorageError)
    (result : RunResult) (after : Folder) : Prop where
  code : result.code = 1
  silent : result.output = []
  /-- All problems of the configuration are reported. -/
  refused : ∀ problem ∈ options.searchConfig.problems,
    "Configuration error: " ++ problem ∈ result.errors
  /-- If there are none and the store can be opened, the strategy is reported, or before it what was
  wrong with seeding. -/
  reported : options.problems = [] → ∀ schema, loadSchema folder options.schema = .ok schema →
    openStore folder options = .ok (folder.store options.databasePath) →
    result.errors = (failureAfter error
      (seed folder options schema (.file (folder.store options.databasePath))).1).report
  /-- The store is found as it was but for its database. -/
  found : after.store options.databasePath =
    { folder.store options.databasePath with
      database := (after.store options.databasePath).database }
  /-- Nothing is lost. -/
  grows : (folder.store options.databasePath).database.Grows
    (after.store options.databasePath).database
  /-- The database is another one just if seeding has added to it. -/
  changed : (after.store options.databasePath).database ≠
    (folder.store options.databasePath).database ↔ RunAdds folder options
  /-- Then it is what seeding has made of it. -/
  seeded : RunAdds folder options → ∀ schema last, loadSchema folder options.schema = .ok schema →
    (seed folder options schema (.file (folder.store options.databasePath))).2 = .file last →
    (after.store options.databasePath).database = last.database
  /-- Without seed records the whole store is found as it was. -/
  unseeded : options.seed = none →
    after.store options.databasePath = folder.store options.databasePath

theorem Options.mem_problems (options : Options) {problem : String}
    (h : problem ∈ options.searchConfig.problems) : problem ∈ options.problems :=
  List.mem_append_left _ h

/-- A run that has changed nothing, since it could not get so far. -/
theorem unstarted_of_unchanged {error : StorageError} {errors : List String}
    (hAdds : ¬ RunAdds folder options)
    (hRefused : ∀ problem ∈ options.searchConfig.problems,
      "Configuration error: " ++ problem ∈ errors)
    (hReported : options.problems = [] → ∀ schema,
      loadSchema folder options.schema = .ok schema →
      openStore folder options ≠ .ok (folder.store options.databasePath)) :
    Unstarted folder options error { code := 1, errors } folder where
  code := rfl
  silent := rfl
  refused := hRefused
  reported hProblems schema hSchema hStore := absurd hStore (hReported hProblems schema hSchema)
  found := rfl
  grows := .refl _
  changed := iff_of_false (fun h => h rfl) hAdds
  seeded h := absurd h hAdds
  unseeded _ := rfl

/-- A run whose store was saved as seeding had left it. -/
theorem unstarted_of_saved {error : StorageError} {result : Except Failure Unit} {last : FileStore}
    (hBackend : options.backend = .sqlite) (hProblems : options.problems = [])
    (hSchema : loadSchema folder options.schema = .ok schema)
    (hStore : openStore folder options = .ok (folder.store options.databasePath))
    (hSeed : seed folder options schema (.file (folder.store options.databasePath)) =
      (result, .file last)) :
    Unstarted folder options error
      { code := 1, errors := (failureAfter error result).report } (folder.save last) := by
  obtain ⟨-, hRefusal⟩ := openStore_eq_ok hBackend hStore
  obtain ⟨result', last', hSeed', hLast, hAdded⟩ :=
    seed_becomes folder options schema (folder.store options.databasePath)
  obtain ⟨rfl, hSame⟩ := Prod.mk.inj (hSeed.symm.trans hSeed')
  obtain rfl := Store.file.inj hSame
  obtain ⟨database, hFound, hGrows, hKept, hLost⟩ := Folder.found_of_save hRefusal hLast
  have hAdds := runAdds_iff hProblems hSchema hStore
  have hChanged : database ≠ (folder.store options.databasePath).database ↔
      RunAdds folder options := by
    rw [hAdds]
    by_cases hIsKept : (folder.store options.databasePath).IsKept
    · rw [hKept hIsKept, Ne, hAdded, not_not, and_iff_right hIsKept]
    · exact iff_of_false (fun h => h (hLost hIsKept)) fun h => hIsKept h.1
  constructor
  case code | silent => rfl
  case refused =>
    intro problem hProblem
    cases hProblems ▸ options.mem_problems hProblem
  case reported =>
    intro _ other hOther _
    obtain rfl := Except.ok.inj (hOther.symm.trans hSchema)
    rw [hSeed']
  case found => rw [hFound]
  case grows => rwa [hFound]
  case changed => rwa [hFound]
  case seeded =>
    -- Seeding goes one way only, so what it was said to come to is what was saved.
    intro hRunAdds other final hOther hFinal
    obtain rfl := Except.ok.inj (hOther.symm.trans hSchema)
    rw [hSeed'] at hFinal
    rw [hFound, ← Store.file.inj hFinal]
    exact hKept (hAdds.mp hRunAdds).1
  case unseeded =>
    intro hNone
    have hSameDatabase : database = (folder.store options.databasePath).database := by
      by_contra hOther
      obtain ⟨-, path, -, -, hPath, -⟩ := hAdds.mp (hChanged.mp hOther)
      cases hNone.symm.trans hPath
    rw [hFound, hSameDatabase]

/-- **What a run comes to that fails for its strategy.**  It ends with code 1 and prints nothing,
and it reports the strategy unless something else was wrong before.  Its database has lost nothing,
and is the same as before unless the run has seed records: then it is what seeding has made of
it. -/
theorem run_of_unresolved {environment : String → Option String} {arguments : List String}
    {error : StorageError} (hParse : Options.parse environment arguments = .ok options)
    (hBackend : options.backend = .sqlite)
    (hUnresolved : (Resolver.create (.file (folder.store options.databasePath))
      options.searchConfig).outcome = .error error) :
    Unstarted folder options error (run folder environment arguments).1
      (run folder environment arguments).2 := by
  rw [run, hParse]
  dsimp only
  cases hProblems : options.problems with
  | cons problem problems =>
      refine unstarted_of_unchanged (fun h => ?_) (fun other hOther => ?_) fun h => ?_
      · cases hProblems.symm.trans h.1
      · exact List.mem_map_of_mem (hProblems ▸ options.mem_problems hOther)
      · cases hProblems.symm.trans h
  | nil =>
      dsimp only
      rcases execute_of_unresolved hBackend hUnresolved with
        ⟨failure, hExecute, hClosed⟩ | ⟨schema, result, last, hSchema, hStore, hSeed, hExecute⟩
      · rw [hExecute]
        refine unstarted_of_unchanged ?_ (fun problem hProblem => ?_) fun _ schema hSchema => ?_
        · rintro ⟨-, -, schema, hSchema, hStore, -⟩
          exact hClosed schema _ hSchema hStore
        · cases hProblems ▸ options.mem_problems hProblem
        · exact hClosed schema _ hSchema
      · rw [hExecute]
        exact unstarted_of_saved hBackend hProblems hSchema hStore hSeed

/-! ## A run for vaults -/

/-- A folder with the record type of vaults, which have nothing but an id, and with one of them. -/
def vaultFolder : Folder where
  texts := [
    ("schema.json", "\x7b\"name\": \"Vault\", \"columns\": [\x7b\"name\": \"id\", " ++
      "\"type\": \"integer\"\x7d]\x7d"),
    ("vaults.json", "[\x7b\"id\": 1\x7d]")]

/-- The arguments of a run on that folder that lists the vault of an id. -/
def vaultArguments (others : List String) : List String :=
  ["--schema", "schema.json", "--database-url", "vaults.db", "--id", "1"] ++ others

/-- What such a run is asked for that wants full text search. -/
def vaultOptions (seed : Option String) : Options where
  schema := "schema.json"
  databaseUrl := some "vaults.db"
  strategy := .fixed .fullTextPrefix
  ids := ["1"]
  seed := seed

theorem create_vault_eq_error (seed : Option String) :
    (Resolver.create (.file (vaultFolder.store "vaults.db"))
      (vaultOptions seed).searchConfig).outcome =
      .error (.search (.unsupportedStrategy "full-text-prefix" "sqlite")) :=
  Resolver.create_file_eq_error_iff.mpr (.inr ⟨rfl, rfl, rfl⟩)

/-- A run that wants full text search and has no seed records fails and leaves its database
alone. -/
theorem run_of_unresolved_of_vault :
    let arguments := vaultArguments ["--strategy", "full-text-prefix"]
    Options.parse (fun _ => none) arguments = .ok (vaultOptions none) ∧
      (vaultOptions none).backend = .sqlite ∧
      (Resolver.create (.file (vaultFolder.store "vaults.db"))
        (vaultOptions none).searchConfig).outcome =
        .error (.search (.unsupportedStrategy "full-text-prefix" "sqlite")) ∧
      (run vaultFolder (fun _ => none) arguments).1.code = 1 ∧
      (run vaultFolder (fun _ => none) arguments).2.store "vaults.db" =
        vaultFolder.store "vaults.db" := by
  have hParse : Options.parse (fun _ => none)
      (vaultArguments ["--strategy", "full-text-prefix"]) = .ok (vaultOptions none) := by
    decide +kernel
  have hRun := run_of_unresolved hParse rfl (create_vault_eq_error none)
  exact ⟨hParse, rfl, create_vault_eq_error none, hRun.code, hRun.unseeded rfl⟩

/-- With a seed record a run fails for its strategy too, but it has created the table by then and
stored the record.  The run without the strategy, which would have succeeded before, fails then. -/
theorem run_of_seeded_vault :
    let arguments := vaultArguments ["--seed", "vaults.json", "--strategy", "full-text-prefix"]
    let corrected := vaultArguments ["--seed", "vaults.json"]
    let result := (run vaultFolder (fun _ => none) arguments).1
    let after := (run vaultFolder (fun _ => none) arguments).2
    Options.parse (fun _ => none) arguments = .ok (vaultOptions (some "vaults.json")) ∧
      (Resolver.create (.file (vaultFolder.store "vaults.db"))
        (vaultOptions (some "vaults.json")).searchConfig).outcome =
        .error (.search (.unsupportedStrategy "full-text-prefix" "sqlite")) ∧
      result.errors =
        ["Error: search strategy 'full-text-prefix' is not supported by backend sqlite"] ∧
      (vaultFolder.store "vaults.db").database = {} ∧
      (after.store "vaults.db").database.tables.map Table.rows = [[⟨1, [.integer 1]⟩]] ∧
      (run vaultFolder (fun _ => none) corrected).1.code = 0 ∧
      (run after (fun _ => none) corrected).1.code = 1 := by
  refine ⟨?_, create_vault_eq_error _, ?_, ?_, ?_, ?_, ?_⟩
  all_goals decide +kernel

end Cli
end FieldSearch
