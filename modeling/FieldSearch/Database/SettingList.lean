import FieldSearch.Database.Advice
import FieldSearch.Database.Inventory
import FieldSearch.Database.Setting

/-!
# The list of settings

All settings that have a table, and those that tell what there is: the settings themselves, the
functions, the kinds of tables, and the databases of a connection.
-/

namespace FieldSearch.Database.Setting

/-! ## Lists of what there is -/

/-- A list of names. -/
def names (name column : String) (values : Knowledge → List String) : Setting :=
  .list name [column] fun knowledge => (values knowledge).map fun value => [.text value]

/-- The databases of a connection. -/
def databases (knowledge : Knowledge) : List (List Cell) :=
  [.integer 0, .text "main", .text knowledge.settings.file] ::
    (if knowledge.connection.hasTemporary then [[.integer 1, .text "temp", .text ""]] else [])

/-- The settings that tell what there is. -/
def inventories : List Setting :=
  [.list "collation_list" ["seq", "name"] fun _ =>
      Inventory.collations.zipIdx.map fun (name, index) => [.integer index, .text name],
    .names "compile_options" "compile_options" fun _ => Inventory.options,
    .list "database_list" ["seq", "name", "file"] databases,
    .list "function_list" ["name", "builtin", "type", "enc", "narg", "flags"] fun _ =>
      Inventory.functions.map NamedFunction.row,
    .names "module_list" "name" fun knowledge =>
      (NameOrder.ofList (Inventory.tableKinds ++ knowledge.connection.names.reverse)).names,
    .names "pragma_list" "name" fun _ => allNames]

/-! ## The list -/

/-- All settings that have a table. -/
def all : List Setting :=
  schemaSettings ++ globalSettings ++ questions ++ inventories ++ [optimize] ++
    switchesOff.map (switch · false) ++ switchesOn.map (switch · true) ++
    zeroNumbers.map (number · 0)

/-- The name in front of the names of settings. -/
def namesStart : String := "pragma_"

/-- The setting of a table. -/
def ofTable? (table : String) : Option Setting :=
  let lower := Text.asciiLowercase table
  all.find? fun setting => namesStart ++ setting.name == lower

/-- The columns of the table of a setting. -/
def columnsOfTable? (table : String) : Option (List SystemColumn) :=
  (ofTable? table).map allColumns

end FieldSearch.Database.Setting
