import FieldSearch.Proofs.Database.Storing
import FieldSearch.Proofs.Number.Integer
import FieldSearch.Proofs.Search.TermSet
import FieldSearch.Proofs.Sql.Comparison
import Mathlib

/-!
# The statement that stores a record

The names, the placeholders and the parameters of the statement come from one walk over
the columns, while the record holds its values in the order of their names.  Here the
statement is said outright: which columns it names, how it reads, and what is passed for
each placeholder, by pairing the columns with the parameters.

What a type takes, and as what, is a relation of its own.  A record is refused for the
least name that is no column, and else for the first column whose value its type does not
take.  Since nulls are passed over and no other name may be there, the statement does not
depend on null values, nor on the order in which the record was filled.

## Main results

* `toValue?_eq_some_iff`: the values that a type takes.
* `refusedBy_insertion`: the checks of a record, in their order.
* `render_template`: how the statement reads.
* `insertion_congr`: records that differ by nulls only are stored by the same statement.
* `stores_exactly_what_is_given`: all of it for every record type that can be declared.
-/

namespace FieldSearch

open Number (Binary64)

/-! ## The values that a type takes -/

/-- A value other than null is taken by a type, and becomes a parameter. -/
inductive ColumnType.Takes : ColumnType → Json → Sql.Value → Prop where
  | text (value : String) : Takes .text (.text value) (.text value)
  | integer {value : Int} (lower : -2 ^ 63 ≤ value) (upper : value < 2 ^ 63) :
      Takes .integer (.integer value) (.integer value)
  | whole (value : Int) : Takes .float (.integer value) (.real (Binary64.ofInt value))
  | float (value : Binary64) : Takes .float (.real value) (.real value)
  | boolean (value : Bool) : Takes .boolean (.bool value) (.bool value)

theorem ColumnType.toValue?_eq_some_iff {type : ColumnType} {json : Json} (hNull : json ≠ .null)
    {value : Sql.Value} : type.toValue? json = some value ↔ type.Takes json value := by
  constructor
  · intro h
    unfold toValue? at h
    split at h
    · exact absurd rfl hNull
    · obtain rfl := Option.some.inj h
      exact .text _
    · split at h
      next hFits =>
        obtain rfl := Option.some.inj h
        exact .integer (Number.fitsInt64_iff.mp hFits).1 (Number.fitsInt64_iff.mp hFits).2
      · cases h
    · obtain rfl := Option.some.inj h
      exact .whole _
    · obtain rfl := Option.some.inj h
      exact .float _
    · obtain rfl := Option.some.inj h
      exact .boolean _
    · cases h
  · intro h
    cases h with
    | integer lower upper => rw [toValue?, if_pos (Number.fitsInt64_iff.mpr ⟨lower, upper⟩)]
    | _ => rfl

/-! ## Checks -/

/-- What is checked of a record that is to be stored. -/
inductive Record.Check where
  | keys
  | value (column : Column)
deriving DecidableEq, Repr

open Record (Check)

namespace Schema

/-- The checks of a record in the order in which they are made. -/
def storingChecks (schema : Schema) : List Check := .keys :: schema.columns.map .value

/-- What a check refuses of a record, and the fault with which it does. -/
inductive RefusesRecord (schema : Schema) (record : Record) : Check → QueryError → Prop where
  | undeclared {name : String}
      (least : IsLeast {name | name ∈ record.values.keys ∧ name ∉ schema.columnNames} name) :
      RefusesRecord schema record .keys (.unknownColumn schema.name name)
  | unfit {column : Column} (given : record.given column ≠ .null)
      (unfit : ∀ value, ¬ column.type.Takes (record.given column) value) :
      RefusesRecord schema record (.value column)
        (.typeMismatch schema.name column.name column.type.name)

/-- What a record has to be in order to be stored. -/
structure Admits (schema : Schema) (record : Record) : Prop where
  /-- Names with a null value have to be columns too. -/
  declared : ∀ name ∈ record.values.keys, name ∈ schema.columnNames
  fits : ∀ column ∈ schema.columns, record.given column ≠ .null →
    ∃ value, column.type.Takes (record.given column) value

variable {schema : Schema} {record : Record}

theorem columnValue_eq_error_iff (hValid : schema.Valid) {column : Column}
    (hMem : column ∈ schema.columns) (hNull : record.given column ≠ .null) {fault : QueryError} :
    schema.columnValue column.name (record.given column) = .error fault ↔
      schema.RefusesRecord record (.value column) fault := by
  rw [columnValue_eq_error (hValid.column?_eq_some_iff.mpr ⟨hMem, rfl⟩),
    Option.eq_none_iff_forall_ne_some]
  simp only [ne_eq, ColumnType.toValue?_eq_some_iff hNull]
  constructor
  · rintro ⟨hUnfit, rfl⟩
    exact .unfit hNull hUnfit
  · intro h
    cases h with
    | unfit _ unfit => exact ⟨unfit, rfl⟩

/-- The walk over the columns refuses the first value that its column does not take. -/
theorem refusedBy_cells (hValid : schema.Valid) {columns : List Column}
    (hColumns : ∀ column ∈ columns, column ∈ schema.columns) :
    RefusedBy (schema.RefusesRecord record) (columns.map .value) (schema.cells record columns) := by
  induction columns with
  | nil => exact .ok []
  | cons column rest ih =>
      obtain ⟨hMem, hRest⟩ := List.forall_mem_cons.mp hColumns
      rw [List.map_cons]
      by_cases hNull : record.given column = .null
      · rw [cells_cons_of_null hNull]
        refine .pass (fun other h => ?_) (ih hRest)
        cases h with
        | unfit given => exact given hNull
      · rw [cells_cons_of_ne_null hNull]
        exact .bind (fun fault => columnValue_eq_error_iff hValid hMem hNull)
          fun value _ => .map _ (ih hRest)

theorem isNone_column?_iff {name : String} :
    (schema.column? name).isNone = true ↔ name ∉ schema.columnNames := by
  rw [Option.isNone_iff_eq_none, column?_eq_none_iff, columnNames, List.mem_map]
  constructor
  · rintro h ⟨column, hMem, hName⟩
    exact h column hMem hName
  · intro h column hMem hName
    exact h ⟨column, hMem, hName⟩

/-- The name for which a record is refused is the least that is no column. -/
theorem find?_undeclared_iff {name : String} :
    (record.values.keys.find? fun name => (schema.column? name).isNone) = some name ↔
      IsLeast {name | name ∈ record.values.keys ∧ name ∉ schema.columnNames} name := by
  have hRising : record.values.keys.Pairwise (· < ·) :=
    List.pairwise_map.mpr record.values.rising
  rw [find?_eq_some_iff_isLeast hRising]
  simp only [isNone_column?_iff]

/-- **A record is refused by its checks**, in their order, and for nothing else. -/
theorem refusedBy_insertion (hValid : schema.Valid) :
    RefusedBy (schema.RefusesRecord record) schema.storingChecks (schema.insertion record) := by
  rw [storingChecks, Schema.insertion]
  cases hFind : record.values.keys.find? fun name => (schema.column? name).isNone with
  | some name =>
      rw [find?_undeclared_iff] at hFind
      refine .fail fun fault => ⟨fun h => ?_, ?_⟩
      · cases h with
        | undeclared least => rw [least.unique hFind]
      · rintro rfl
        exact .undeclared hFind
  | none =>
      refine .pass (fun other h => ?_) (.map _ (refusedBy_cells hValid fun _ hMem => hMem))
      cases h with
      | undeclared least =>
          rw [← find?_undeclared_iff, hFind] at least
          cases least

theorem exists_insertion_iff (hValid : schema.Valid) :
    (∃ statement, schema.insertion record = .ok statement) ↔ schema.Admits record := by
  rw [(refusedBy_insertion hValid).exists_ok_iff, storingChecks, List.forall_mem_cons]
  constructor
  · rintro ⟨hKeys, hValues⟩
    refine ⟨fun name hName => ?_, fun column hMem hNull => ?_⟩
    · by_contra hNot
      have hFound : (record.values.keys.find? fun name => (schema.column? name).isNone).isSome =
          true := List.find?_isSome.mpr ⟨name, hName, isNone_column?_iff.mpr hNot⟩
      obtain ⟨least, hLeast⟩ := Option.isSome_iff_exists.mp hFound
      exact hKeys _ (.undeclared (find?_undeclared_iff.mp hLeast))
    · by_contra hUnfit
      exact hValues _ (List.mem_map_of_mem hMem) _ (.unfit hNull (not_exists.mp hUnfit))
  · intro hAdmits
    refine ⟨fun fault hRefuses => ?_, fun check hMem fault hRefuses => ?_⟩
    · cases hRefuses with
      | undeclared least => exact least.1.2 (hAdmits.declared _ least.1.1)
    · obtain ⟨column, hColumn, rfl⟩ := List.mem_map.mp hMem
      cases hRefuses with
      | unfit given unfit =>
          obtain ⟨value, hTakes⟩ := hAdmits.fits column hColumn given
          exact unfit value hTakes

end Schema

/-! ## How the statement reads -/

namespace Sql

section

variable (dialect : Dialect)

/-- Pieces with a separator between them read as their texts with the separator between them. -/
theorem Template.join_texts_joined (separator : String) (pieces : List Piece) :
    ∀ count, String.join (texts dialect count (joined separator (pieces.map fun piece => [piece]))) =
      separator.intercalate (texts dialect count pieces) := by
  induction pieces with
  | nil => exact fun _ => rfl
  | cons piece rest ih =>
      intro count
      cases rest with
      | nil => simp [joined, texts]
      | cons next others =>
          have hJoined : joined separator ((piece :: next :: others).map fun piece => [piece]) =
              piece :: .fixed separator :: joined separator ((next :: others).map fun piece =>
                [piece]) := rfl
          have hSeparated : texts dialect count (piece :: .fixed separator :: joined separator
                ((next :: others).map fun piece => [piece])) =
              piece.text dialect count :: separator :: texts dialect (count + piece.values.length)
                (joined separator ((next :: others).map fun piece => [piece])) := rfl
          have hTexts : texts dialect count (piece :: next :: others) =
              piece.text dialect count ::
                texts dialect (count + piece.values.length) (next :: others) := rfl
          rw [hJoined, hSeparated, hTexts, String.join_cons, String.join_cons, ih, texts,
            String.intercalate_cons_cons, String.append_assoc]

theorem Template.texts_names (names : List String) :
    ∀ count, texts dialect count (names.map .name) = names.map Text.quoteIdentifier := by
  induction names with
  | nil => exact fun _ => rfl
  | cons name rest ih =>
      intro count
      rw [List.map_cons, texts, ih]
      rfl

/-- Values read as placeholders in the order of their numbers. -/
theorem Template.texts_values (values : List Value) :
    ∀ count, texts dialect count (values.map .value) =
      (List.range' (count + 1) values.length).map dialect.placeholder := by
  induction values with
  | nil => exact fun _ => rfl
  | cons value rest ih =>
      intro count
      rw [List.map_cons, texts, ih]
      rfl

end

/-- Names bind nothing. -/
theorem Template.values_names (separator : String) (names : List String) :
    values (joined separator ((names.map Piece.name).map fun piece => [piece])) = [] := by
  rw [values_joined, List.flatMap_map, List.flatMap_map, List.flatMap_eq_nil_iff]
  exact fun _ _ => rfl

theorem Template.values_values (separator : String) (bound : List Value) :
    values (joined separator ((bound.map Piece.value).map fun piece => [piece])) = bound := by
  rw [values_joined, List.flatMap_map, List.flatMap_map]
  exact List.flatMap_singleton' bound

end Sql

namespace Insert

/-- The statement that names some columns of a table, with a placeholder for each of them. -/
def text (dialect : Sql.Dialect) (table : String) (names : List String) : String :=
  if names = [] then "INSERT INTO " ++ Text.quoteIdentifier table ++ " DEFAULT VALUES"
  else
    "INSERT INTO " ++ Text.quoteIdentifier table ++ " (" ++
      ", ".intercalate (names.map Text.quoteIdentifier) ++ ") VALUES (" ++
      ", ".intercalate ((List.range' 1 names.length).map dialect.placeholder) ++ ")"

theorem render_template (statement : Insert) (dialect : Sql.Dialect) :
    Sql.Writer.render { dialect } statement.template =
      ⟨text dialect statement.table (statement.cells.map Prod.fst),
        statement.cells.map Prod.snd⟩ := by
  obtain ⟨table, cells⟩ := statement
  by_cases hEmpty : cells = []
  · rw [hEmpty]
    rfl
  · have hNames : (cells.map fun cell => [Sql.Piece.name cell.1]) =
        ((cells.map Prod.fst).map Sql.Piece.name).map fun piece => [piece] := by
      simp [Function.comp_def]
    have hValues : (cells.map fun cell => [Sql.Piece.value cell.2]) =
        ((cells.map Prod.snd).map Sql.Piece.value).map fun piece => [piece] := by
      simp [Function.comp_def]
    rw [template, if_neg (by simpa using hEmpty), hNames, hValues, Sql.Writer.render,
      Sql.Writer.write]
    dsimp only [Sql.Writer.finish]
    simp only [Sql.Template.values_append, Sql.Template.values_names, Sql.Template.values_values,
      Sql.Template.texts_append, String.join_append, Sql.Template.join_texts_joined,
      Sql.Template.texts_names, Sql.Template.texts_values]
    simp [text, hEmpty, Sql.Template.texts, Sql.Template.values, Sql.Piece.text,
      Sql.Piece.values, String.append_assoc]

end Insert

/-! ## What is passed for the columns -/

/-- Whether a record has a value other than null for a column. -/
def Record.gives (record : Record) (column : Column) : Bool :=
  match record.given column with
  | .null => false
  | _ => true

theorem Record.gives_eq_false {record : Record} {column : Column}
    (hNull : record.given column = .null) : record.gives column = false := by
  rw [gives, hNull]

theorem Record.gives_eq_true {record : Record} {column : Column}
    (hNull : record.given column ≠ .null) : record.gives column = true := by
  unfold gives
  split
  next h => exact absurd h hNull
  · rfl

namespace Schema

variable {schema : Schema} {record : Record}

/-- The columns of a statement are those for which the record has a value, one for one with the
values as their columns take them. -/
theorem forall₂_gives {columns : List Column}
    (hFits : ∀ column ∈ columns, ∃ value,
      column.type.toValue? (record.given column) = some value) :
    List.Forall₂ (fun column entry => entry.1 = column ∧
        column.type.Takes (record.given column) entry.2)
      (columns.filter record.gives)
      (columns.filterMap fun column =>
        (record.value? column).map fun value => (column, value)) := by
  induction columns with
  | nil => exact .nil
  | cons column rest ih =>
      obtain ⟨⟨value, hValue⟩, hRest⟩ := List.forall_mem_cons.mp hFits
      by_cases hNull : record.given column = .null
      · rw [List.filter_cons_of_neg (by simp [Record.gives_eq_false hNull]),
          List.filterMap_cons_none (by rw [Record.value?_of_null hNull]; rfl)]
        exact ih hRest
      · have hGiven : record.value? column = some value :=
          (Record.value?_of_ne_null hNull).trans hValue
        rw [List.filter_cons_of_pos (Record.gives_eq_true hNull),
          List.filterMap_cons_some (b := (column, value)) (by rw [hGiven]; rfl)]
        exact .cons ⟨rfl, (ColumnType.toValue?_eq_some_iff hNull).mp hValue⟩ (ih hRest)

/-- **What a record is stored by**: the text names the columns for which it has a value, and the
parameters are these values. -/
theorem render_insertion (hValid : schema.Valid) {statement : Insert}
    (h : schema.insertion record = .ok statement) (dialect : Sql.Dialect) :
    let columns := schema.columns.filter record.gives
    let fragment := Sql.Writer.render { dialect } statement.template
    fragment.sql = Insert.text dialect schema.table (columns.map Column.name) ∧
      List.Forall₂ (fun column value => column.type.Takes (record.given column) value) columns
        fragment.params := by
  intro columns fragment
  obtain ⟨hFits, rfl⟩ := insertion_eq_ok hValid h
  have hPaired := forall₂_gives hFits
  have hNames : (schema.entries record).map (fun entry => entry.1.name) =
      columns.map Column.name := by
    rw [← List.forall₂_eq_eq_eq, List.forall₂_map_left_iff, List.forall₂_map_right_iff]
    exact hPaired.flip.imp fun entry column hEntry => congrArg Column.name hEntry.1
  have hFragment : fragment = ⟨Insert.text dialect schema.table (columns.map Column.name),
      (schema.entries record).map Prod.snd⟩ := by
    refine (Insert.render_template _ dialect).trans ?_
    rw [List.map_map, List.map_map, ← hNames]
    rfl
  rw [hFragment]
  refine ⟨rfl, ?_⟩
  rw [List.forall₂_map_right_iff]
  exact hPaired.imp fun column entry hEntry => hEntry.2

end Schema

/-! ## Records that are stored by the same statement -/

namespace Record

/-- Two records differ in nothing but null values for declared columns. -/
def EqUpToNulls (schema : Schema) (left right : Record) : Prop :=
  ∀ name, left.get? name = right.get? name ∨
    name ∈ schema.columnNames ∧ (left.get? name).getD .null = .null ∧
      (right.get? name).getD .null = .null

/-- A record with some values written one after the other. -/
def fill (record : Record) (entries : List (String × Json)) : Record :=
  entries.foldl (fun filled entry => filled.set entry.1 entry.2) record

theorem get?_fill (name : String) (entries : List (String × Json)) :
    ∀ record : Record, (record.fill entries).get? name =
      (entries.filter fun entry => entry.1 == name).foldl (fun _ entry => some entry.2)
        (record.get? name) := by
  induction entries with
  | nil => exact fun _ => rfl
  | cons entry rest ih =>
      intro record
      have hStep : record.fill (entry :: rest) = (record.set entry.1 entry.2).fill rest := rfl
      rw [hStep, ih]
      by_cases hName : entry.1 = name
      · rw [List.filter_cons_of_pos (by simpa using hName), List.foldl_cons, hName, get?_set_self]
      · rw [List.filter_cons_of_neg (by simpa using hName),
          get?_set_of_ne record entry.2 (Ne.symm hName)]

end Record

namespace Schema

variable {schema : Schema} {left right : Record}

theorem given_eq_of_eqUpToNulls (h : left.EqUpToNulls schema right) (column : Column) :
    left.given column = right.given column := by
  rcases h column.name with hSame | ⟨-, hLeft, hRight⟩
  · rw [Record.given, Record.given, hSame]
  · exact hLeft.trans hRight.symm

theorem cells_congr (h : left.EqUpToNulls schema right) (columns : List Column) :
    schema.cells left columns = schema.cells right columns := by
  induction columns with
  | nil => rfl
  | cons column rest ih =>
      have hGiven := given_eq_of_eqUpToNulls h column
      by_cases hNull : left.given column = .null
      · rw [cells_cons_of_null hNull, cells_cons_of_null (hGiven ▸ hNull), ih]
      · rw [cells_cons_of_ne_null hNull, cells_cons_of_ne_null (hGiven ▸ hNull), hGiven, ih]

/-- Of names that are no columns, such records have the same. -/
theorem mem_keys_congr (h : left.EqUpToNulls schema right) {name : String}
    (hUndeclared : name ∉ schema.columnNames) :
    name ∈ left.values.keys ↔ name ∈ right.values.keys := by
  rcases h name with hSame | ⟨hDeclared, -⟩
  · rw [← not_iff_not, ← KeyMap.get?_eq_none_iff, ← KeyMap.get?_eq_none_iff]
    exact iff_of_eq (congrArg (· = none) hSame)
  · exact absurd hDeclared hUndeclared

/-- **Records that differ by nulls only are stored by the same statement**, or refused alike. -/
theorem insertion_congr (h : left.EqUpToNulls schema right) :
    schema.insertion left = schema.insertion right := by
  have hFind : (left.values.keys.find? fun name => (schema.column? name).isNone) =
      right.values.keys.find? fun name => (schema.column? name).isNone := by
    have hSets : {name | name ∈ left.values.keys ∧ name ∉ schema.columnNames} =
        {name | name ∈ right.values.keys ∧ name ∉ schema.columnNames} :=
      Set.ext fun name => and_congr_left fun hUndeclared => mem_keys_congr h hUndeclared
    refine Option.ext fun name => ?_
    rw [find?_undeclared_iff, find?_undeclared_iff, hSets]
  rw [Schema.insertion, Schema.insertion, hFind, cells_congr h]

/-- **A record is stored exactly as it is given.**  It is stored if and only if its names are
columns and its values are taken by them, and refused for the first check that refuses anything.
The statement names the columns for which there is a value, in their order; each of them stands for
the placeholder in its place, and the parameter in that place is its value.  Nulls for declared
columns make no difference to it, nor does the order in which the columns of a record were
filled. -/
theorem stores_exactly_what_is_given {declaration : Declaration}
    (hSchema : ofDeclaration declaration = .ok schema) (record : Record) :
    ((∃ statement, schema.insertion record = .ok statement) ↔ schema.Admits record) ∧
    (∀ fault, schema.insertion record = .error fault ↔
      FirstRefusal (schema.RefusesRecord record) schema.storingChecks fault) ∧
    (∀ statement, schema.insertion record = .ok statement → ∀ dialect : Sql.Dialect,
      let columns := schema.columns.filter record.gives
      let fragment := Sql.Writer.render { dialect } statement.template
      fragment.sql = Insert.text dialect schema.table (columns.map Column.name) ∧
        List.Forall₂ (fun column value => column.type.Takes (record.given column) value) columns
          fragment.params) ∧
    (∀ other : Record, other.EqUpToNulls schema record →
      schema.insertion other = schema.insertion record) ∧
    ∀ entries others : List (String × Json),
      (∀ name, (entries.filter fun entry => entry.1 == name) =
        others.filter fun entry => entry.1 == name) →
      schema.insertion (record.fill others) = schema.insertion (record.fill entries) := by
  have hValid := valid_of_ofDeclaration hSchema
  refine ⟨exists_insertion_iff hValid, refusedBy_insertion hValid,
    fun statement h => render_insertion hValid h, fun other h => insertion_congr h,
    fun entries others h => insertion_congr fun name => .inl ?_⟩
  rw [Record.get?_fill, Record.get?_fill, h]

/-- A hero without an alias is stored in two columns, whether the alias is null or left out; of two
names that are no columns the lesser one is reported, though its value is null, and so is the value
of the other. -/
theorem stores_exactly_what_is_given_of_heroes :
    let entries : List (String × Json) := [("name", .text "Ada"), ("id", .integer 7)]
    let hero := Record.empty.fill entries
    let unknown := Record.empty.fill [("zeal", .null), ("id", .text "seven"), ("age", .null)]
    (∃ statement, heroes.insertion hero = .ok statement ∧
      Sql.Writer.render { dialect := .postgres } statement.template =
        ⟨"INSERT INTO \"heroes\" (\"id\", \"name\") VALUES ($1, $2)",
          [.integer 7, .text "Ada"]⟩) ∧
    heroes.insertion (hero.set "alias" .null) = heroes.insertion hero ∧
    heroes.insertion (Record.empty.fill entries.reverse) = heroes.insertion hero ∧
    heroes.insertion unknown = .error (.unknownColumn "Hero" "age") := by
  intro entries hero unknown
  obtain ⟨hAdmits, -, hReads, hNulls, -⟩ :=
    stores_exactly_what_is_given ofDeclaration_heroes hero
  obtain ⟨-, -, -, -, hOrder⟩ := stores_exactly_what_is_given ofDeclaration_heroes .empty
  obtain ⟨-, hRefused, -⟩ := stores_exactly_what_is_given ofDeclaration_heroes unknown
  refine ⟨?stored, ?nulls, ?order, ?refused⟩
  case stored =>
    have hId : hero.given ⟨"id", .integer⟩ = .integer 7 := rfl
    have hName : hero.given ⟨"name", .text⟩ = .text "Ada" := rfl
    have hFits : ∀ column ∈ heroes.columns, hero.given column ≠ .null →
        ∃ value, column.type.Takes (hero.given column) value := by
      rintro column hMem hNull
      simp only [heroes, List.mem_cons, List.not_mem_nil, or_false] at hMem
      rcases hMem with rfl | rfl | rfl | rfl
      · rw [hId]
        exact ⟨_, .integer (by decide) (by decide)⟩
      · rw [hName]
        exact ⟨_, .text "Ada"⟩
      · exact absurd rfl hNull
      · exact absurd rfl hNull
    obtain ⟨statement, hStatement⟩ := hAdmits.mpr ⟨by decide, hFits⟩
    have hColumns : heroes.columns.filter hero.gives = [⟨"id", .integer⟩, ⟨"name", .text⟩] := rfl
    obtain ⟨hText, hParams⟩ := hReads statement hStatement .postgres
    rw [hColumns] at hText hParams
    refine ⟨statement, hStatement, ?_⟩
    generalize Sql.Writer.render { dialect := .postgres } statement.template = fragment at *
    obtain ⟨sql, params⟩ := fragment
    obtain rfl : sql = _ := hText
    dsimp only at hParams
    cases hParams with
    | cons hFirst hRest =>
        cases hRest with
        | cons hSecond hNone =>
            cases hNone
            rw [hId] at hFirst
            rw [hName] at hSecond
            cases hFirst
            cases hSecond
            rfl
  case nulls =>
    refine hNulls _ fun name => ?_
    by_cases hName : name = "alias"
    · rw [hName]
      exact .inr ⟨by decide, rfl, rfl⟩
    · exact .inl (Record.get?_set_of_ne _ _ hName)
  case order =>
    refine hOrder _ _ fun name => ?_
    by_cases hName : "name" = name
    · rw [← hName]
      rfl
    · by_cases hId : "id" = name
      · rw [← hId]
        rfl
      · simp [entries, hName, hId]
  case refused =>
    refine (hRefused _).mpr (.here (.undeclared ⟨by decide, ?_⟩))
    rintro name ⟨hMem, hUndeclared⟩
    have hKeys : name ∈ ["age", "id", "zeal"] := hMem
    simp only [List.mem_cons, List.not_mem_nil, or_false] at hKeys
    rcases hKeys with rfl | rfl | rfl
    · exact le_refl _
    · exact absurd (by decide) hUndeclared
    · decide

end Schema
end FieldSearch
