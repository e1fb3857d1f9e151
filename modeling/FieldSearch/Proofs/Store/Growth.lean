import FieldSearch.Proofs.Store.Run
import Mathlib

/-!
# Growing databases

A database is only added to: a change creates a table, or puts a row among those of
a table, and what was there stays there.  So of two states of a database it can be
said which was the earlier one, and a change that has happened is not undone by those
that follow.  A change that a store refuses leaves its database alone.

## Main results

* `Grows.trans`, `Grows.antisymm`: growing orders the states of a database.
* `run_grows`: a change makes a database grow.
* `change_cases`: what a store does with a change.
* `becomes_ensureTable`, `becomes_insert`: what it does for records and their table.
-/

namespace FieldSearch

open Database (Row Table)

namespace Database

variable {first second third database changed : Database}

/-- One database has become the other by changes: every table is there with the rows that it had,
and if there was a change, there are tables and it is remembered. -/
structure Grows (first second : Database) : Prop where
  kept : ∀ name table, first.table? name = some table →
    ∃ rows, second.table? name = some { table with rows } ∧ table.rows.Sublist rows
  told : second = first ∨ second.tables ≠ [] ∧ first.history.length < second.history.length

theorem Grows.refl (database : Database) : database.Grows database :=
  ⟨fun _ table hFound => ⟨table.rows, hFound, .refl _⟩, .inl rfl⟩

theorem Grows.trans (hFirst : first.Grows second) (hSecond : second.Grows third) :
    first.Grows third where
  kept name table hFound := by
    obtain ⟨rows, hThen, hRows⟩ := hFirst.kept name table hFound
    obtain ⟨others, hLast, hOthers⟩ := hSecond.kept name _ hThen
    exact ⟨others, hLast, hRows.trans hOthers⟩
  told := by
    rcases hSecond.told with rfl | ⟨hTables, hLater⟩
    · exact hFirst.told
    · rcases hFirst.told with rfl | ⟨-, hEarlier⟩
      · exact .inr ⟨hTables, hLater⟩
      · exact .inr ⟨hTables, hEarlier.trans hLater⟩

theorem Grows.antisymm (hFirst : first.Grows second) (hSecond : second.Grows first) :
    first = second := by
  rcases hFirst.told with hSame | ⟨-, hLater⟩
  · exact hSame.symm
  · rcases hSecond.told with hSame | ⟨-, hEarlier⟩
    · exact hSame
    · omega

/-- What was changed on the way is not changed back. -/
theorem Grows.eq_of_eq (hFirst : first.Grows second) (hSecond : second.Grows third)
    (hBack : third = first) : second = first :=
  (hBack ▸ hSecond).antisymm hFirst

theorem sublist_place (row : Row) (rows : List Row) : rows.Sublist (Table.place row rows) := by
  induction rows with
  | nil => exact List.nil_sublist _
  | cons other rest ih =>
      rw [Table.place]
      split
      · exact List.sublist_cons_self _ _
      · exact ih.cons_cons _

/-! ## Changes -/

/-- What inserting into a table comes to if it succeeds, whatever the table. -/
theorem Table.insert_eq_ok {table next : Table} {statement : Insert} {number : Int}
    (h : table.insert statement = .ok (number, next)) :
    ∃ row, next = { table with rows := place row table.rows } := by
  obtain ⟨given, -, h⟩ := bind_eq_ok.mp h
  obtain ⟨chosen, -, h⟩ := bind_eq_ok.mp h
  obtain ⟨-, h⟩ := ite_throw_eq_ok.mp h
  obtain ⟨-, h⟩ := ite_throw_eq_ok.mp h
  exact ⟨_, (Prod.mk.inj (Except.ok.inj h)).2.symm⟩

/-- What creating a table comes to if it succeeds: it was there, or it is there now. -/
theorem create_eq_ok {statement : CreateTable} (h : database.create statement = .ok changed) :
    (∃ table, database.table? statement.table = some table) ∧ changed = database ∨
      database.table? statement.table = none ∧
        changed =
          { tables := database.tables ++ [Table.ofStatement statement]
            history := .created statement.table :: database.history } := by
  rw [create] at h
  by_cases hReserved : isReserved statement.table = true
  · rw [if_pos hReserved] at h
    cases h
  rw [if_neg hReserved] at h
  by_cases hThere : (database.table? statement.table).isSome = true
  · rw [if_pos hThere] at h
    exact .inl ⟨Option.isSome_iff_exists.mp hThere, (Except.ok.inj h).symm⟩
  rw [if_neg hThere] at h
  refine .inr ⟨Option.not_isSome_iff_eq_none.mp hThere, ?_⟩
  split at h
  · cases h
  · by_cases hMany : maxColumns < statement.columns.length
    · rw [if_pos hMany] at h
      cases h
    · rw [if_neg hMany] at h
      exact (Except.ok.inj h).symm

theorem grows_append (table : Table) (change : Change) :
    database.Grows
      { tables := database.tables ++ [table], history := change :: database.history } where
  kept name other hFound := by
    refine ⟨other.rows, ?_, .refl _⟩
    rw [table?] at hFound ⊢
    rw [List.find?_append, hFound, Option.some_or]
  told := .inr ⟨by simp, by simp⟩

theorem grows_create {statement : CreateTable} (h : database.create statement = .ok changed) :
    database.Grows changed := by
  rcases create_eq_ok h with ⟨-, rfl⟩ | ⟨-, rfl⟩
  · exact .refl _
  · exact grows_append _ _

/-- Two names that differ only in case are names of one table. -/
theorem table?_congr {name other : String} (h : Text.sameIgnoringAsciiCase name other = true) :
    database.table? name = database.table? other := by
  have hLower : Text.asciiLowercase name = Text.asciiLowercase other := beq_iff_eq.mp h
  rw [table?, table?]
  congr 1
  funext table
  rw [Text.sameIgnoringAsciiCase, Text.sameIgnoringAsciiCase, hLower]

theorem sameIgnoringAsciiCase_of_table? {name : String} {table : Table}
    (h : database.table? name = some table) :
    Text.sameIgnoringAsciiCase table.name name = true := by
  simpa using List.find?_some h

/-- **Inserting a row** makes the database another one. -/
theorem insertInto_grows {name : String} {table : Table} {statement : Insert}
    (hFound : database.table? name = some table)
    (h : database.insertInto table statement = .ok changed) :
    database.Grows changed ∧ changed ≠ database := by
  obtain ⟨⟨number, next⟩, hInsert, h⟩ := bind_eq_ok.mp h
  obtain ⟨row, rfl⟩ := Table.insert_eq_ok hInsert
  obtain rfl := Except.ok.inj h
  have hHistory : database.history.length <
      (Change.inserted table.name number :: database.history).length := by
    simp
  refine ⟨⟨fun other found hOther => ?_, .inr ⟨?_, hHistory⟩⟩, fun hSame => ?_⟩
  · have hReplaced :=
      database.table?_replace { table with rows := Table.place row table.rows } other
    rw [hOther, Option.map_some] at hReplaced
    split at hReplaced
    next hReplacing =>
      have hName : Text.sameIgnoringAsciiCase found.name table.name = true := hReplacing
      -- The table that was replaced is the one that is found under the other name.
      have hBoth : database.table? other = database.table? name :=
        (table?_congr (sameIgnoringAsciiCase_of_table? hOther)).symm.trans
          ((table?_congr hName).trans (table?_congr (sameIgnoringAsciiCase_of_table? hFound)))
      obtain rfl : found = table := Option.some.inj (hOther.symm.trans (hBoth.trans hFound))
      exact ⟨_, hReplaced, sublist_place row found.rows⟩
    · exact ⟨found.rows, hReplaced, .refl _⟩
  · have hMem := List.mem_of_find?_eq_some hFound
    exact List.map_eq_nil_iff.not.mpr (List.ne_nil_of_mem hMem)
  · have hEqual := congrArg (fun database : Database => database.history.length) hSame
    exact absurd hEqual hHistory.ne'

/-- A row can only be inserted into a table that was created. -/
theorem Knowledge.run_insert_eq_ok {knowledge : Knowledge} {statement : Insert}
    (h : knowledge.run (.insert statement) = .ok changed) :
    ∃ table, knowledge.database.table? statement.table = some table ∧
      knowledge.database.insertInto table statement = .ok changed := by
  have hNaming : (knowledge.naming statement.table).database = knowledge.database := by
    rw [naming]
    split <;> rfl
  rw [run] at h
  obtain ⟨source, hSource, h⟩ := bind_eq_ok.mp h
  cases source with
  | system table => cases h
  | created table =>
      refine ⟨table, ?_, h⟩
      rw [Knowledge.source, hNaming] at hSource
      split at hSource
      next hFound => rw [hFound, Source.created.inj (Except.ok.inj hSource)]
      · obtain ⟨answer, -, hSource⟩ := bind_eq_ok.mp hSource
        cases answer <;> cases hSource

/-- **A change makes a database grow.** -/
theorem Knowledge.run_grows {knowledge : Knowledge} {command : Command}
    (h : knowledge.run command = .ok changed) : knowledge.database.Grows changed := by
  cases command with
  | create statement => exact grows_create h
  | insert statement =>
      obtain ⟨table, hFound, hInserted⟩ := Knowledge.run_insert_eq_ok h
      exact (insertInto_grows hFound hInserted).1

end Database

/-! ## Stores -/

namespace FileStore

variable {files last : FileStore} {schema : Schema} {record : Record}

/-- One store has become the other by changes of its database. -/
structure Becomes (files last : FileStore) : Prop where
  same : last = { files with database := last.database, connection := last.connection }
  grows : files.database.Grows last.database

theorem Becomes.refl (files : FileStore) : files.Becomes files := ⟨rfl, .refl _⟩

theorem Becomes.trans {next : FileStore} (hFirst : files.Becomes next)
    (hSecond : next.Becomes last) : files.Becomes last where
  same := by
    rw [hSecond.same, hFirst.same]
  grows := hFirst.grows.trans hSecond.grows

theorem refuseChange_eq_ok {before after : Database} {result : Except Database.Fault Database}
    (h : refuseChange before result = .ok after) : result = .ok after := by
  cases result with
  | error broken => cases h
  | ok database =>
      rw [refuseChange] at h
      split_ifs at h
      exact h

/-- **What a store does with a change**: it carries it out, or refuses it and keeps its database. -/
theorem change_cases (files : FileStore) (command : Database.Command) :
    ∃ next, files.Becomes next ∧
      ((∃ error, files.change command = (.error error, next) ∧ next.database = files.database) ∨
        files.change command = (.ok (), next) ∧
          files.knowledge.run command = .ok next.database) := by
  rw [change]
  by_cases hReachable : (!files.isReachable) = true
  · rw [if_pos hReachable]
    exact ⟨files, .refl files, .inl ⟨_, rfl, rfl⟩⟩
  rw [if_neg hReachable]
  dsimp only
  split
  next database hResult =>
    have hRun : files.knowledge.run command = .ok database := by
      split at hResult
      · exact refuseChange_eq_ok hResult
      · exact hResult
    exact ⟨{ files with connection := files.knowledge.afterRun command, database },
      ⟨rfl, Database.Knowledge.run_grows hRun⟩, .inr ⟨rfl, hRun⟩⟩
  · exact ⟨{ files with connection := files.knowledge.afterRun command }, ⟨rfl, .refl _⟩,
      .inl ⟨_, rfl, rfl⟩⟩

/-- **What a store does to have the table of a record type.**  If it has succeeded, the database is
another one just if the table was not there. -/
theorem becomes_ensureTable (files : FileStore) (schema : Schema) :
    ∃ result next, (Store.file files).ensureTable schema = (result, .file next) ∧
      files.Becomes next ∧
      (next.database = files.database ↔
        ¬ (result = .ok () ∧ files.database.table? schema.table = none)) := by
  obtain ⟨next, hBecomes, ⟨error, hChange, hSame⟩ | ⟨hChange, hRun⟩⟩ :=
    files.change_cases (.create schema.createTable)
  · refine ⟨.error error, next, ?_, hBecomes, iff_of_true hSame (by simp)⟩
    rw [Store.ensureTable, Store.execute, hChange]
  · refine ⟨.ok (), next, ?_, hBecomes, ?_⟩
    · rw [Store.ensureTable, Store.execute, hChange]
    · rcases Database.create_eq_ok hRun with ⟨⟨table, hFound⟩, hSame⟩ | ⟨hNone, hMade⟩
      · refine iff_of_true hSame fun h => ?_
        cases hFound.symm.trans h.2
      · refine iff_of_false (fun hSame => ?_) fun h => h ⟨rfl, hNone⟩
        have hTables := congrArg (fun database : Database => database.tables.length)
          (hSame.symm.trans hMade)
        simp [knowledge] at hTables

/-- **What a store does with a record**: its database becomes another one just if it is stored. -/
theorem becomes_insert (files : FileStore) (schema : Schema) (record : Record) :
    ∃ result next, (Store.file files).insert schema record = (result, .file next) ∧
      files.Becomes next ∧ (next.database = files.database ↔ result ≠ .ok ()) := by
  rw [Store.insert]
  cases schema.insertion record with
  | error error => exact ⟨_, files, rfl, .refl files, iff_of_true rfl (by simp)⟩
  | ok statement =>
      obtain ⟨next, hBecomes, ⟨error, hChange, hSame⟩ | ⟨hChange, hRun⟩⟩ :=
        files.change_cases (.insert statement)
      · refine ⟨.error error, next, ?_, hBecomes, iff_of_true hSame (by simp)⟩
        dsimp only
        rw [Store.execute, hChange]
      · obtain ⟨table, hFound, hInserted⟩ := Database.Knowledge.run_insert_eq_ok hRun
        refine ⟨.ok (), next, ?_, hBecomes,
          iff_of_false (Database.insertInto_grows hFound hInserted).2 fun h => h rfl⟩
        dsimp only
        rw [Store.execute, hChange]

end FileStore
end FieldSearch
