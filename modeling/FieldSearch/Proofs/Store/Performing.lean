import FieldSearch.Proofs.Query.Lookup
import FieldSearch.Proofs.Sql.Change
import Mathlib

/-!
# Statements that are carried out as they read

A store in a database carries changes out as it has them at hand, while what is sent to the
database is a text with parameters.  Here the text is read: the database finds a table or
a row in it, gives every column the affinity that the words of its type stand for, and
carries that out.  It comes to the same, in every state of the store, so what is known of
a store holds of its statements.

Of the types only the affinities are left in a text: a column of truth values is created
as one of integers, which the database keeps in the same way.

## Main results

* `declaredAffinity?_sqlType`: the words of a type stand for its affinity.
* `perform?_createTable`, `perform?_insert`: statements that were written are carried out
  as they read.
* `obeys`: a store does what the texts of its statements say.
-/

namespace FieldSearch

open Database (Affinity Command affinityOf)
open Sql (ColumnDefinition Fragment Writer)

/-! ## Types and affinities -/

/-- The parts of types that stand for affinities, in the order in which they are looked for. -/
def Database.affinityRules : List (String × Affinity) :=
  [("int", .integer), ("char", .text), ("clob", .text), ("text", .text), ("blob", .any),
    ("real", .real), ("floa", .real), ("doub", .real)]

/-- The affinity of a column that is declared with a type, by the first part that is found in it
regardless of case.  A column without a type takes every kind as it comes; types in which no part is
found stand for an affinity of their own, which no column has here. -/
def Database.declaredAffinity? (type : String) : Option Affinity :=
  if type = "" then some .any
  else
    (affinityRules.find? fun rule =>
      decide (rule.1.toList <:+: (Text.asciiLowercase type).toList)).map Prod.snd

/-- **The words of a type stand for its affinity.** -/
theorem Database.declaredAffinity?_sqlType (type : ColumnType) :
    declaredAffinity? (type.sqlType .sqlite) = some (affinityOf type) := by
  cases type <;> decide

/-- A type of columns with an affinity. -/
def ColumnType.ofAffinity? : Affinity → Option ColumnType
  | .text => some .text
  | .integer => some .integer
  | .real => some .float
  | .any => none

theorem ColumnType.exists_ofAffinity?_eq_some (type : ColumnType) :
    ∃ kept, ofAffinity? (affinityOf type) = some kept ∧ affinityOf kept = affinityOf type := by
  cases type <;> exact ⟨_, rfl, rfl⟩

/-! ## Commands as they are read -/

/-- The column that a definition stands for.  A key with the affinity of integers numbers the rows
only if integers are what its type is called; else its cells would be kept beside the numbers, as
those of no column here are. -/
def NewColumn.ofDefinition? (definition : ColumnDefinition) : Option NewColumn := do
  let affinity ← Database.declaredAffinity? definition.type
  let type ← ColumnType.ofAffinity? affinity
  guard (definition.isKey = true → affinity = .integer →
    Text.sameIgnoringAsciiCase definition.type "INTEGER" = true)
  some ⟨definition.name, type, definition.isKey⟩

/-- What the database is asked for by a change. -/
def Database.Command.ofChange? : Sql.Change → Option Command
  | .create table columns =>
      (columns.mapM NewColumn.ofDefinition?).map fun columns => .create ⟨table, columns⟩
  | .insert table cells => some (.insert ⟨table, cells⟩)

/-- Two columns of one name and one affinity, both of them the key or neither. -/
structure NewColumn.Alike (left right : NewColumn) : Prop where
  name : left.name = right.name
  affinity : affinityOf left.type = affinityOf right.type
  isKey : left.isKey = right.isKey

/-- A column that was written is read as a column like it. -/
theorem NewColumn.exists_ofDefinition? (column : NewColumn) :
    ∃ kept, ofDefinition? (column.definition .sqlite) = some kept ∧ kept.Alike column := by
  obtain ⟨type, hType, hAffinity⟩ := column.type.exists_ofAffinity?_eq_some
  have hNumber : affinityOf column.type = .integer →
      Text.sameIgnoringAsciiCase (column.type.sqlType .sqlite) "INTEGER" = true := by
    cases column.type <;> decide
  refine ⟨⟨column.name, type, column.isKey⟩, ?_, rfl, hAffinity, rfl⟩
  rw [ofDefinition?, definition, Database.declaredAffinity?_sqlType]
  simp only [Option.bind_eq_bind, Option.bind_some, hType]
  rw [guard, if_pos fun _ => hNumber]
  rfl

/-- Columns that were written are read as columns like them. -/
theorem NewColumn.exists_mapM_ofDefinition? (columns : List NewColumn) :
    ∃ kept, (columns.map (definition .sqlite)).mapM ofDefinition? = some kept ∧
      List.Forall₂ Alike kept columns := by
  induction columns with
  | nil => exact ⟨[], rfl, .nil⟩
  | cons column rest ih =>
      obtain ⟨kept, hRest, hAlike⟩ := ih
      obtain ⟨first, hColumn, hFirst⟩ := column.exists_ofDefinition?
      refine ⟨first :: kept, ?_, .cons hFirst hAlike⟩
      rw [List.map_cons, List.mapM_cons, hColumn, hRest]
      rfl

/-- What is seen of a column in its name, its affinity and its mark is the same for columns that are
alike. -/
theorem NewColumn.map_eq_of_alike {β : Type} (view : NewColumn → β) {left right : List NewColumn}
    (hView : ∀ {first second : NewColumn}, first.Alike second → view first = view second)
    (hAlike : List.Forall₂ Alike left right) : left.map view = right.map view := by
  rw [← List.forall₂_eq_eq_eq, List.forall₂_map_left_iff, List.forall₂_map_right_iff]
  exact hAlike.imp fun _ _ h => hView h

theorem Database.Table.ofStatement_congr (table : String) {left right : List NewColumn}
    (hAlike : List.Forall₂ NewColumn.Alike left right) :
    Table.ofStatement ⟨table, left⟩ = Table.ofStatement ⟨table, right⟩ := by
  have hColumns := NewColumn.map_eq_of_alike
    (fun column => StoredColumn.mk column.name (affinityOf column.type))
    (fun h => by rw [h.name, h.affinity]) hAlike
  have hKeys := NewColumn.map_eq_of_alike NewColumn.isKey (fun h => h.isKey) hAlike
  have hNumbers := NewColumn.map_eq_of_alike
    (fun column => column.isKey && affinityOf column.type == .integer)
    (fun h => by rw [h.isKey, h.affinity]) hAlike
  have hKey : left.findIdx NewColumn.isKey = right.findIdx NewColumn.isKey := by
    have hIndex := congrArg (List.findIdx id) hKeys
    rwa [List.findIdx_map, List.findIdx_map] at hIndex
  have hNumber := congrArg (List.any · id) hNumbers
  simp only [List.any_map, Function.id_comp] at hNumber
  simp only [Table.ofStatement, hColumns, hKey, hNumber]

/-- The database sees nothing of a column but its name, its affinity and its mark. -/
theorem Database.create_congr (database : Database) (table : String)
    {left right : List NewColumn} (hAlike : List.Forall₂ NewColumn.Alike left right) :
    database.create ⟨table, left⟩ = database.create ⟨table, right⟩ := by
  have hNames := NewColumn.map_eq_of_alike NewColumn.name (fun h => h.name) hAlike
  simp only [create, hNames, hAlike.length_eq, Table.ofStatement_congr table hAlike]

/-! ## Carrying statements out -/

namespace FileStore

/-- Carries a statement out as it reads, if it reads as a change. -/
def perform? (files : FileStore) (fragment : Fragment) :
    Option (Except StorageError Unit × Store) :=
  ((fragment.readChange? .sqlite).bind Command.ofChange?).map (Store.file files).execute

/-- **The statement that creates a table is carried out as it reads.** -/
theorem perform?_createTable (files : FileStore) {statement : CreateTable}
    (hColumns : statement.columns ≠ []) :
    files.perform? (Writer.render { dialect := .sqlite } (statement.template .sqlite)) =
      some ((Store.file files).execute (.create statement)) := by
  obtain ⟨kept, hKept, hAlike⟩ := NewColumn.exists_mapM_ofDefinition? statement.columns
  have hRead := @Sql.readChange?_createTable { dialect := .sqlite } statement hColumns
  have hCommand : Command.ofChange? (.create statement.table
      (statement.columns.map (NewColumn.definition .sqlite))) =
      some (.create ⟨statement.table, kept⟩) := by
    rw [Command.ofChange?, hKept]
    rfl
  have hCreate : files.database.create ⟨statement.table, kept⟩ =
      files.database.create statement := Database.create_congr _ _ hAlike
  have hRun : files.knowledge.run (.create ⟨statement.table, kept⟩) =
      files.knowledge.run (.create statement) := hCreate
  rw [perform?, hRead, Option.bind_some, hCommand, Option.map_some, Store.execute, Store.execute,
    change, change, hRun]
  rfl

/-- **The statement that stores a row is carried out as it reads.** -/
theorem perform?_insert (files : FileStore) (statement : Insert) :
    files.perform? (Writer.render { dialect := .sqlite } statement.template) =
      some ((Store.file files).execute (.insert statement)) := by
  have hRead := Sql.readChange?_insert { dialect := .sqlite } statement
  rw [perform?, hRead]
  rfl

/-- The store does what the texts of its statements say, with the parameters in their places. -/
structure Obeys (files : FileStore) (schema : Schema) : Prop where
  /-- Creating the table is carrying its statement out. -/
  creates : files.perform?
      (Writer.render { dialect := .sqlite } (schema.createTable.template .sqlite)) =
    some ((Store.file files).ensureTable schema)
  /-- Storing a record is carrying its statement out. -/
  inserts : ∀ record statement, schema.insertion record = .ok statement →
    files.perform? (Writer.render { dialect := .sqlite } statement.template) =
      some ((Store.file files).insert schema record)
  /-- A record that has no statement is refused, and nothing is done. -/
  refuses : ∀ record error, schema.insertion record = .error error →
    (Store.file files).insert schema record = (.error (.query error), .file files)
  /-- The statement of a lookup asks for the columns of the rows with the key. -/
  looksUp : ∀ config resolver, (Resolver.create (.file files) config).outcome = .ok resolver →
    ∀ (id : RecordId) value, id.toValue? schema.key.type = some value →
      ∃ prepared statement, (resolver.prepareLookup schema id).outcome = .ok prepared ∧
        prepared.fragment.read? .sqlite = some statement ∧
        statement.columns = schema.columnNames ∧ statement.table = schema.table ∧
        ∀ judgement, (∀ inner ∈ statement.condition, inner.truth judgement = some true) ↔
          judgement.equals schema.primaryKey value = some true

/-- **A store does what the texts of its statements say**, in every state that it is in. -/
theorem obeys {schema : Schema} (hValid : schema.Valid) (files : FileStore) :
    files.Obeys schema where
  creates := by
    refine files.perform?_createTable ?_
    simpa [Schema.createTable] using hValid.columns_ne_nil
  inserts record statement hInsertion := by
    rw [files.perform?_insert, Store.insert, hInsertion]
  refuses record error hInsertion := by
    rw [Store.insert, hInsertion]
    rfl
  looksUp config resolver hMade id value hValue := by
    obtain rfl : resolver = Resolver.forFile config none := Resolver.create_file_eq_ok hMade
    obtain ⟨fragment, hPrepared, hRendered, -⟩ := Resolver.exists_prepareId_eq_ok config hValue
    have hColumns : schema.columnNames ≠ [] := by
      rw [Schema.columnNames, Ne, List.map_eq_nil_iff]
      exact hValid.columns_ne_nil
    have hWritable : (Resolver.selectOf schema value).Writable :=
      ⟨List.forall_mem_singleton.mpr trivial, List.forall_mem_singleton.mpr trivial⟩
    obtain ⟨condition, hRead, hTruth⟩ := Sql.read?_of_renderSelect hColumns hWritable hRendered
    refine ⟨_, _, (Resolver.outcome_prepareLookup _ schema id).trans hPrepared, hRead, rfl, rfl,
      fun judgement => (hTruth judgement).trans ?_⟩
    have hFilters : (Resolver.selectOf schema value).filters =
        [.idIn schema.key.name [value]] := rfl
    rw [hFilters, List.forall_mem_singleton, Filter.Accepts]
    simp [Schema.primaryKey]

end FileStore

end FieldSearch
