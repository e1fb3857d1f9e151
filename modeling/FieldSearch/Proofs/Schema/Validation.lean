import FieldSearch.Proofs.Schema.Declaration
import FieldSearch.Proofs.Text.Identifier
import Mathlib

/-!
# Which declarations are accepted

A declaration is checked for one thing after another and refused for the first that is
wrong.  `Declaration.checks` lists what is looked at, in order, and `Declaration.Refuses`
says of each check what it refuses and how the fault is reported, without reference to
the code.  What passes all of them is a well-formed declaration, which is a matter of the
declaration alone: that the fields of a search are identifiers need not be asked, since
they are columns.

Columns and fields are checked by the same walk over names, which keeps the names that it
has passed; so what is proved of the walk is proved once.

## Main results

* `refusedBy_checkNames`: the walk over names.
* `refusedBy_ofDeclaration`: the checks of a declaration, in their order.
* `accepts_well_formed`: what is accepted, what else is refused for, and what is kept.
-/

namespace FieldSearch

namespace Declaration

/-- What is checked of a declaration. -/
inductive Check where
  | name
  | table
  | columns
  | columnName (name : String)
  /-- Whether a column has its name to itself, the names before it being given. -/
  | columnFresh (before : List String) (name : String)
  | primaryKey
  | fieldName (field : String)
  /-- Whether a field is listed once, the fields before it being given. -/
  | fieldFresh (before : List String) (field : String)
  | fieldKnown (field : String)
  | fieldText (field : String)
  | listing
deriving DecidableEq, Repr

/-- The checks of names from left to right, each as an identifier and then beside the names before
it, the nearest of which is the first. -/
def Check.ofNames (identifier : String → Check) (fresh : List String → String → Check) :
    List String → List String → List Check
  | _, [] => []
  | before, first :: rest =>
      identifier first :: fresh before first :: ofNames identifier fresh (first :: before) rest

/-- The checks of a searchable field as a column. -/
def Check.ofField (field : String) : List Check := [.fieldKnown field, .fieldText field]

/-- The checks in the order in which they are made. -/
def checks (declaration : Declaration) : List Check :=
  .name :: .table :: .columns ::
    (Check.ofNames .columnName .columnFresh [] (declaration.columns.map Column.name) ++
      .primaryKey ::
        (Check.ofNames .fieldName .fieldFresh [] declaration.search.searchableFields ++
          (declaration.search.searchableFields.flatMap Check.ofField ++ [.listing])))

/-- What a check refuses, and the fault with which it does. -/
inductive Refuses (declaration : Declaration) : Check → SchemaError → Prop where
  | name (unfit : declaration.name.toList ∉ Text.identifiers) :
      Refuses declaration .name (.invalidIdentifier declaration.name)
  | table (unfit : (Schema.tableName declaration).toList ∉ Text.identifiers) :
      Refuses declaration .table (.invalidIdentifier (Schema.tableName declaration))
  | columns (empty : declaration.columns = []) :
      Refuses declaration .columns (.noColumns declaration.name)
  | columnName {name : String} (unfit : name.toList ∉ Text.identifiers) :
      Refuses declaration (.columnName name) (.invalidIdentifier name)
  | columnTwice {before : List String} {name : String} (seen : name ∈ before) :
      Refuses declaration (.columnFresh before name) (.duplicateColumn declaration.name name)
  | primaryKey (missing : ∀ column ∈ declaration.columns, column.name ≠ declaration.primaryKey) :
      Refuses declaration .primaryKey
        (.unknownPrimaryKey declaration.name declaration.primaryKey)
  | fieldName {field : String} (unfit : field.toList ∉ Text.identifiers) :
      Refuses declaration (.fieldName field) (.invalidIdentifier field)
  | fieldTwice {before : List String} {field : String} (seen : field ∈ before) :
      Refuses declaration (.fieldFresh before field) (.duplicateSearchField field)
  | fieldUnknown {field : String}
      (missing : ∀ column ∈ declaration.columns, column.name ≠ field) :
      Refuses declaration (.fieldKnown field) (.unknownSearchField declaration.name field)
  | fieldNotText {field : String} {column : Column} (mem : column ∈ declaration.columns)
      (named : column.name = field) (type : column.type ≠ .text) :
      Refuses declaration (.fieldText field)
        (.nonTextualSearchField declaration.name field column.type.name)
  | unlisted (searched : declaration.search.searchableFields ≠ [])
      (closed : declaration.search.allowUnfilteredFetch = false) :
      Refuses declaration .listing (.searchRequiresUnfilteredFetch declaration.name)

/-- What a declaration has to be in order to be accepted. -/
structure WellFormed (declaration : Declaration) : Prop where
  name : declaration.name.toList ∈ Text.identifiers
  /-- Without a table the name is used, in lower case. -/
  table : (declaration.table.getD (Text.lowercase declaration.name)).toList ∈ Text.identifiers
  columns_ne_nil : declaration.columns ≠ []
  columnNames : ∀ column ∈ declaration.columns, column.name.toList ∈ Text.identifiers
  columnNames_nodup : (declaration.columns.map Column.name).Nodup
  primaryKey : ∃ column ∈ declaration.columns, column.name = declaration.primaryKey
  fields_nodup : declaration.search.searchableFields.Nodup
  fields : ∀ field ∈ declaration.search.searchableFields,
    ∃ column ∈ declaration.columns, column.name = field ∧ column.type = .text
  listed : declaration.search.searchableFields ≠ [] →
    declaration.search.allowUnfilteredFetch = true

end Declaration

open Declaration (Check)

/-! ## The walk over names -/

theorem checkIdentifier_eq_error {name : String} {fault : SchemaError} :
    checkIdentifier name = .error fault ↔
      name.toList ∉ Text.identifiers ∧ fault = .invalidIdentifier name := by
  rw [← Text.isIdentifier_iff, checkIdentifier]
  by_cases hIdentifier : Text.isIdentifier name = true
  · rw [if_pos hIdentifier]
    constructor
    · intro h
      cases h
    · intro h
      exact absurd hIdentifier h.1
  · rw [if_neg hIdentifier]
    constructor
    · intro h
      exact ⟨hIdentifier, (Except.error.inj h).symm⟩
    · rintro ⟨-, rfl⟩
      rfl

/-- **The walk over names** makes the two checks of each name, one name after the other. -/
theorem refusedBy_checkNames {declaration : Declaration} {blame : String → SchemaError}
    {identifier : String → Check} {fresh : List String → String → Check}
    (hIdentifier : ∀ name fault, declaration.Refuses (identifier name) fault ↔
      name.toList ∉ Text.identifiers ∧ fault = .invalidIdentifier name)
    (hFresh : ∀ before name fault, declaration.Refuses (fresh before name) fault ↔
      name ∈ before ∧ fault = blame name) (names : List String) :
    ∀ seen, RefusedBy declaration.Refuses (Check.ofNames identifier fresh seen names)
      (checkNames blame seen names) := by
  induction names with
  | nil => exact fun _ => .ok ()
  | cons name rest ih =>
      intro seen
      rw [Check.ofNames, checkNames]
      refine .bind (fun fault => ?_) fun _ _ => .ite_throw (fun fault => ?_) fun _ => ih _
      · rw [checkIdentifier_eq_error, hIdentifier]
      · rw [hFresh, List.contains_iff_mem]

/-! ## What single checks refuse -/

section

variable {declaration : Declaration} {fault : SchemaError}

theorem refuses_name_iff :
    declaration.Refuses .name fault ↔
      declaration.name.toList ∉ Text.identifiers ∧ fault = .invalidIdentifier declaration.name := by
  refine ⟨fun | .name unfit => ⟨unfit, rfl⟩, ?_⟩
  rintro ⟨hUnfit, rfl⟩
  exact .name hUnfit

theorem refuses_table_iff :
    declaration.Refuses .table fault ↔
      (Schema.tableName declaration).toList ∉ Text.identifiers ∧
        fault = .invalidIdentifier (Schema.tableName declaration) := by
  refine ⟨fun | .table unfit => ⟨unfit, rfl⟩, ?_⟩
  rintro ⟨hUnfit, rfl⟩
  exact .table hUnfit

theorem refuses_columns_iff :
    declaration.Refuses .columns fault ↔
      declaration.columns = [] ∧ fault = .noColumns declaration.name := by
  refine ⟨fun | .columns empty => ⟨empty, rfl⟩, ?_⟩
  rintro ⟨hEmpty, rfl⟩
  exact .columns hEmpty

theorem refuses_columnName_iff {name : String} :
    declaration.Refuses (.columnName name) fault ↔
      name.toList ∉ Text.identifiers ∧ fault = .invalidIdentifier name := by
  refine ⟨fun | .columnName unfit => ⟨unfit, rfl⟩, ?_⟩
  rintro ⟨hUnfit, rfl⟩
  exact .columnName hUnfit

theorem refuses_columnFresh_iff {before : List String} {name : String} :
    declaration.Refuses (.columnFresh before name) fault ↔
      name ∈ before ∧ fault = .duplicateColumn declaration.name name := by
  refine ⟨fun | .columnTwice seen => ⟨seen, rfl⟩, ?_⟩
  rintro ⟨hSeen, rfl⟩
  exact .columnTwice hSeen

theorem refuses_primaryKey_iff :
    declaration.Refuses .primaryKey fault ↔
      (∀ column ∈ declaration.columns, column.name ≠ declaration.primaryKey) ∧
        fault = .unknownPrimaryKey declaration.name declaration.primaryKey := by
  refine ⟨fun | .primaryKey missing => ⟨missing, rfl⟩, ?_⟩
  rintro ⟨hMissing, rfl⟩
  exact .primaryKey hMissing

theorem refuses_fieldName_iff {field : String} :
    declaration.Refuses (.fieldName field) fault ↔
      field.toList ∉ Text.identifiers ∧ fault = .invalidIdentifier field := by
  refine ⟨fun | .fieldName unfit => ⟨unfit, rfl⟩, ?_⟩
  rintro ⟨hUnfit, rfl⟩
  exact .fieldName hUnfit

theorem refuses_fieldFresh_iff {before : List String} {field : String} :
    declaration.Refuses (.fieldFresh before field) fault ↔
      field ∈ before ∧ fault = .duplicateSearchField field := by
  refine ⟨fun | .fieldTwice seen => ⟨seen, rfl⟩, ?_⟩
  rintro ⟨hSeen, rfl⟩
  exact .fieldTwice hSeen

theorem refuses_fieldKnown_iff {field : String} :
    declaration.Refuses (.fieldKnown field) fault ↔
      (∀ column ∈ declaration.columns, column.name ≠ field) ∧
        fault = .unknownSearchField declaration.name field := by
  refine ⟨fun | .fieldUnknown missing => ⟨missing, rfl⟩, ?_⟩
  rintro ⟨hMissing, rfl⟩
  exact .fieldUnknown hMissing

/-- Where no two columns have the same name, it is the column of a field that is no text. -/
theorem refuses_fieldText_iff (hNodup : (declaration.columns.map Column.name).Nodup)
    {column : Column} (hMem : column ∈ declaration.columns) :
    declaration.Refuses (.fieldText column.name) fault ↔
      column.type ≠ .text ∧
        fault = .nonTextualSearchField declaration.name column.name column.type.name := by
  constructor
  · intro h
    cases h with
    | fieldNotText mem named type =>
        obtain rfl := List.inj_on_of_nodup_map hNodup mem hMem named
        exact ⟨type, rfl⟩
  · rintro ⟨hType, rfl⟩
    exact .fieldNotText hMem rfl hType

theorem refuses_listing_iff :
    declaration.Refuses .listing fault ↔
      (declaration.search.searchableFields ≠ [] ∧
          declaration.search.allowUnfilteredFetch = false) ∧
        fault = .searchRequiresUnfilteredFetch declaration.name := by
  refine ⟨fun | .unlisted searched closed => ⟨⟨searched, closed⟩, rfl⟩, ?_⟩
  rintro ⟨⟨hSearched, hClosed⟩, rfl⟩
  exact .unlisted hSearched hClosed

end

/-! ## Single checks -/

section

-- One lemma for each row of checks that is made by a function of its own.
variable (declaration : Declaration)

theorem refusedBy_checkColumns :
    RefusedBy declaration.Refuses
      (Check.ofNames .columnName .columnFresh [] (declaration.columns.map Column.name))
      (Schema.checkColumns declaration.name [] declaration.columns) := by
  rw [Schema.checkColumns_eq_checkNames]
  exact refusedBy_checkNames (fun _ _ => refuses_columnName_iff)
    (fun _ _ _ => refuses_columnFresh_iff) _ _

theorem refusedBy_declare :
    RefusedBy declaration.Refuses
      (Check.ofNames .fieldName .fieldFresh [] declaration.search.searchableFields)
      (FieldSet.declare declaration.name declaration.search.searchableFields) := by
  rw [FieldSet.declare, FieldSet.checkFields_eq_checkNames]
  exact .map _ (refusedBy_checkNames (fun _ _ => refuses_fieldName_iff)
    (fun _ _ _ => refuses_fieldFresh_iff) _ _)

/-- **A column is looked up by its name**, and what comes next is about the column that has it. -/
theorem refusedBy_lookup {α : Type} {declaration : Declaration} {name : String}
    {blame : SchemaError} {next : Column → Except SchemaError α} {check : Check}
    {rest : List Check}
    (hCheck : ∀ fault, declaration.Refuses check fault ↔
      (∀ column ∈ declaration.columns, column.name ≠ name) ∧ fault = blame)
    (hNext : ∀ column ∈ declaration.columns, column.name = name →
      RefusedBy declaration.Refuses rest (next column)) :
    RefusedBy declaration.Refuses (check :: rest)
      (match declaration.columns.find? fun column => column.name == name with
      | none => throw blame
      | some column => next column) := by
  cases hFound : declaration.columns.find? fun column => column.name == name with
  | none =>
      have hMissing : ∀ column ∈ declaration.columns, column.name ≠ name := by
        simpa using hFound
      exact .fail fun fault => (hCheck fault).trans (and_iff_right hMissing)
  | some column =>
      have hMem := List.mem_of_find?_eq_some hFound
      have hName : column.name = name := by simpa using List.find?_some hFound
      exact .pass (fun other h => ((hCheck other).mp h).1 column hMem hName)
        (hNext column hMem hName)

theorem isTextual_iff {type : ColumnType} : type.isTextual = true ↔ type = .text := by
  cases type <;> simp [ColumnType.isTextual]

theorem refusedBy_checkSearchable (hNodup : (declaration.columns.map Column.name).Nodup)
    (field : String) :
    RefusedBy declaration.Refuses (Check.ofField field)
      (Schema.checkSearchable declaration.name declaration.columns field) := by
  refine refusedBy_lookup (fun _ => refuses_fieldKnown_iff) fun column hMem hName => ?_
  obtain rfl := hName
  by_cases hText : column.type = .text
  · rw [if_pos (isTextual_iff.mpr hText)]
    exact .pass (fun _ h => ((refuses_fieldText_iff hNodup hMem).mp h).1 hText) (.ok ())
  · rw [if_neg (mt isTextual_iff.mp hText)]
    exact .fail fun _ => (refuses_fieldText_iff hNodup hMem).trans (and_iff_right hText)

end

/-! ## Whole declarations -/

namespace Schema

/-- **A declaration is refused by its checks**, in their order, and for nothing else. -/
theorem refusedBy_ofDeclaration (declaration : Declaration) :
    RefusedBy declaration.Refuses declaration.checks (ofDeclaration declaration) := by
  refine .bind (fun _ => checkIdentifier_eq_error.trans refuses_name_iff.symm) fun _ _ => ?_
  refine .bind (fun _ => checkIdentifier_eq_error.trans refuses_table_iff.symm) fun _ _ => ?_
  refine .ite_throw (fun fault => by rw [List.isEmpty_iff]; exact refuses_columns_iff) fun _ => ?_
  refine .append (refusedBy_checkColumns declaration) fun _ hEach => ?_
  -- That no two columns have the same name is what makes the types of fields those of columns.
  obtain ⟨-, hNodup⟩ := checkColumns_eq_ok hEach
  refine refusedBy_lookup (fun _ => refuses_primaryKey_iff) fun key _ _ => ?_
  refine .append (refusedBy_declare declaration) fun searchable hSearchable => ?_
  obtain ⟨rfl, -⟩ := FieldSet.declare_eq_ok hSearchable
  refine .append (.forM fun field _ => refusedBy_checkSearchable declaration hNodup field)
    fun _ _ => .ite_throw (fun fault => ?_) fun _ => .ok _
  rw [Bool.and_eq_true, Bool.not_eq_true', Bool.not_eq_true', FieldSet.isEmpty,
    List.isEmpty_eq_false_iff]
  exact refuses_listing_iff

end Schema

/-! ## Well-formed declarations -/

namespace Declaration

/-- The checks of names are the two of each name, the second beside the names before it. -/
theorem Check.of_mem_ofNames {identifier : String → Check} {fresh : List String → String → Check}
    {names : List String} {check : Check} :
    ∀ {seen}, check ∈ ofNames identifier fresh seen names →
      (∃ entry ∈ names, check = identifier entry) ∨
        ∃ before entry after, names = before ++ entry :: after ∧
          check = fresh (before.reverse ++ seen) entry := by
  induction names with
  | nil =>
      intro seen h
      cases h
  | cons first rest ih =>
      intro seen h
      rw [ofNames, List.mem_cons, List.mem_cons] at h
      rcases h with rfl | rfl | h
      · exact .inl ⟨first, List.mem_cons_self, rfl⟩
      · exact .inr ⟨[], first, rest, rfl, rfl⟩
      · rcases ih h with ⟨entry, hMem, rfl⟩ | ⟨before, entry, after, rfl, rfl⟩
        · exact .inl ⟨entry, List.mem_cons_of_mem first hMem, rfl⟩
        · refine .inr ⟨first :: before, entry, after, rfl, ?_⟩
          rw [List.reverse_cons, List.append_assoc, List.singleton_append]

/-- Names pass if each of them is fine by itself and all of them differ. -/
theorem passes_ofNames {declaration : Declaration} {identifier : String → Check}
    {fresh : List String → String → Check} {names : List String}
    (hIdentifier : ∀ entry ∈ names, ∀ fault, ¬ declaration.Refuses (identifier entry) fault)
    (hFresh : ∀ before entry, entry ∉ before →
      ∀ fault, ¬ declaration.Refuses (fresh before entry) fault) (hNodup : names.Nodup) :
    ∀ check ∈ Check.ofNames identifier fresh [] names,
      ∀ fault, ¬ declaration.Refuses check fault := by
  intro check hMem
  rcases Check.of_mem_ofNames hMem with ⟨entry, hEntry, rfl⟩ | ⟨before, entry, after, rfl, rfl⟩
  · exact hIdentifier entry hEntry
  · rw [List.nodup_middle, List.nodup_cons, List.mem_append, not_or] at hNodup
    refine hFresh _ entry ?_
    rw [List.append_nil, List.mem_reverse]
    exact hNodup.1.1

/-- No check refuses anything of a well-formed declaration. -/
theorem WellFormed.passes {declaration : Declaration} (h : declaration.WellFormed) :
    ∀ check ∈ declaration.checks, ∀ fault, ¬ declaration.Refuses check fault := by
  simp only [checks, List.forall_mem_cons, List.forall_mem_append]
  refine ⟨?name, ?table, ?columns, ?columnNames, ?primaryKey, ?fieldNames, ?fields, ?listing,
    fun _ hMem => absurd hMem List.not_mem_nil⟩
  case name => exact fun | _, .name unfit => unfit h.name
  case table => exact fun | _, .table unfit => unfit h.table
  case columns => exact fun | _, .columns empty => h.columns_ne_nil empty
  case columnNames =>
    refine passes_ofNames (fun name hName => ?_) (fun before name hFresh => ?_)
      h.columnNames_nodup
    · obtain ⟨column, hColumn, rfl⟩ := List.mem_map.mp hName
      exact fun | _, .columnName unfit => unfit (h.columnNames column hColumn)
    · exact fun | _, .columnTwice seen => hFresh seen
  case primaryKey =>
    obtain ⟨column, hColumn, hName⟩ := h.primaryKey
    exact fun | _, .primaryKey missing => missing column hColumn hName
  case fieldNames =>
    refine passes_ofNames (fun field hField => ?_) (fun before field hFresh => ?_) h.fields_nodup
    · obtain ⟨column, hColumn, rfl, -⟩ := h.fields field hField
      exact fun | _, .fieldName unfit => unfit (h.columnNames column hColumn)
    · exact fun | _, .fieldTwice seen => hFresh seen
  case fields =>
    intro check hMem
    obtain ⟨field, hField, hCheck⟩ := List.mem_flatMap.mp hMem
    obtain ⟨column, hColumn, rfl, hText⟩ := h.fields field hField
    rw [Check.ofField, List.mem_pair] at hCheck
    rcases hCheck with rfl | rfl
    · exact fun | _, .fieldUnknown missing => missing column hColumn rfl
    · exact fun fault hRefuses =>
        ((refuses_fieldText_iff h.columnNames_nodup hColumn).mp hRefuses).1 hText
  case listing =>
    intro fault hRefuses
    cases hRefuses with
    | unlisted searched closed =>
        rw [h.listed searched] at closed
        cases closed

end Declaration

namespace Schema

/-- What is accepted is well formed. -/
theorem wellFormed_of_ofDeclaration {declaration : Declaration} {schema : Schema}
    (h : ofDeclaration declaration = .ok schema) : declaration.WellFormed := by
  have hValid := valid_of_ofDeclaration h
  obtain ⟨hDiffer, key, hKey, rfl⟩ := ofDeclaration_eq_ok h
  exact {
    name := Text.isIdentifier_iff.mp hValid.name
    table := Text.isIdentifier_iff.mp hValid.table
    columns_ne_nil := hValid.columns_ne_nil
    columnNames := fun column hMem => Text.isIdentifier_iff.mp (hValid.columnNames column hMem)
    columnNames_nodup := hValid.nodup
    primaryKey := ⟨key, hValid.key_mem, by simpa using List.find?_some hKey⟩
    fields_nodup := hDiffer
    fields := hValid.searchable
    listed := hValid.listed }

/-- The key as it is looked up, by its name and with the first column to fall back on. -/
def keyByName (schema : Schema) : Option Column :=
  (schema.column? schema.primaryKey).or schema.columns.head?

/-- **What is accepted, and what else is refused for.**  A declaration is accepted if and only if it
is well formed, and refused for the first of its checks that refuses anything.  What is accepted is
kept as it was declared, columns and fields in their order, and its key is found by the name that
was declared for it, so that nothing is ever fallen back on. -/
theorem accepts_well_formed (declaration : Declaration) :
    ((∃ schema, ofDeclaration declaration = .ok schema) ↔ declaration.WellFormed) ∧
    (∀ fault, ofDeclaration declaration = .error fault ↔
      FirstRefusal declaration.Refuses declaration.checks fault) ∧
    ∀ schema, ofDeclaration declaration = .ok schema →
      schema.name = declaration.name ∧
      schema.table = declaration.table.getD (Text.lowercase declaration.name) ∧
      schema.columns = declaration.columns ∧
      schema.options = declaration.search ∧
      schema.searchable = ⟨declaration.name, declaration.search.searchableFields⟩ ∧
      schema.primaryKey = declaration.primaryKey ∧
      schema.column? declaration.primaryKey = some schema.key ∧
      schema.keyByName = some schema.key := by
  have hRefused := refusedBy_ofDeclaration declaration
  refine ⟨⟨?_, fun hWell => hRefused.exists_ok_iff.mpr hWell.passes⟩, hRefused, fun schema h => ?_⟩
  · rintro ⟨schema, h⟩
    exact wellFormed_of_ofDeclaration h
  · obtain ⟨-, key, hKey, rfl⟩ := ofDeclaration_eq_ok h
    have hName : key.name = declaration.primaryKey := by simpa using List.find?_some hKey
    have hFound : (declaration.columns.find? fun column => column.name == key.name) =
        some key := by rw [hName, hKey]
    refine ⟨rfl, rfl, rfl, rfl, rfl, hName, hKey, ?_⟩
    rw [keyByName, primaryKey, column?, hFound]
    rfl

/-- The heroes are well formed and have their key; with a column declared twice, a key that is no
column and a search in what is no text it is the column that is at fault. -/
theorem accepts_well_formed_of_heroes :
    let twice : Declaration :=
      { name := "Hero", primaryKey := "code", search := { searchableFields := ["bio", "id"] }
        columns := [⟨"id", .integer⟩, ⟨"id", .text⟩, ⟨"2nd", .text⟩] }
    heroes.toDeclaration.WellFormed ∧ heroes.keyByName = some ⟨"id", .integer⟩ ∧
      ofDeclaration twice = .error (.duplicateColumn "Hero" "id") := by
  intro twice
  obtain ⟨hAccepted, -, hKept⟩ := accepts_well_formed heroes.toDeclaration
  obtain ⟨-, hRefused, -⟩ := accepts_well_formed twice
  have hName : ∀ other, ¬ twice.Refuses .name other
    | _, .name unfit => unfit (Text.isIdentifier_iff.mp (by decide))
  have hTable : ∀ other, ¬ twice.Refuses .table other
    | _, .table unfit => unfit (Text.isIdentifier_iff.mp (by decide))
  have hColumns : ∀ other, ¬ twice.Refuses .columns other
    | _, .columns empty => List.cons_ne_nil _ _ empty
  have hId : ∀ other, ¬ twice.Refuses (.columnName "id") other
    | _, .columnName unfit => unfit (Text.isIdentifier_iff.mp (by decide))
  have hFirst : ∀ other, ¬ twice.Refuses (.columnFresh [] "id") other
    | _, .columnTwice seen => List.not_mem_nil seen
  obtain ⟨-, -, -, -, -, -, -, hKey⟩ := hKept heroes ofDeclaration_heroes
  exact ⟨hAccepted.mp ⟨heroes, ofDeclaration_heroes⟩, hKey,
    (hRefused _).mpr (.later hName (.later hTable (.later hColumns (.later hId (.later hFirst
      (.later hId (.here (.columnTwice List.mem_cons_self))))))))⟩

end Schema
end FieldSearch
