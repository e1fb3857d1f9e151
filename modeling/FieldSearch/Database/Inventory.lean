import FieldSearch.Database.Cell
import FieldSearch.Database.NameOrder

/-!
# What a database comes with

The functions that can be called in a statement, the options with which the database was made, and
the kinds of tables that it answers by itself. The function that folds the case of a text is the one
that was added.
-/

namespace FieldSearch.Database

/-- How a function may be used: the sum of `0x800` if it always gives the same value for the same
arguments, `0x80000` if it may not be used in a definition, `0x100000` if it looks at where its
arguments come from, and `0x200000` if it does no harm. -/
abbrev FunctionFlags := Nat

/-- Functions that are alike but for their names. -/
structure FunctionGroup where
  names : List String
  /-- The numbers of arguments, any number being -1. -/
  arities : List Int
  /-- Whether they may look at other rows. -/
  isWindow : Bool := false
  /-- Whether they are there from the beginning. -/
  isBuiltIn : Bool := true
  flags : FunctionFlags

/-- A function. -/
structure NamedFunction where
  name : String
  arity : Int
  group : FunctionGroup

namespace NamedFunction

/-- The functions of a group. -/
def ofGroup (group : FunctionGroup) : List NamedFunction :=
  group.names.flatMap fun name => group.arities.map fun arity => { name, arity, group }

/-- A function as it is told. -/
def row (function : NamedFunction) : List Cell :=
  [.text function.name, .integer (if function.group.isBuiltIn then 1 else 0),
    .text (if function.group.isWindow then "w" else "s"), .text "utf8", .integer function.arity,
    .integer function.group.flags]

end NamedFunction

namespace Inventory

/-- Functions of their arguments alone. -/
def pureFunctions : List FunctionGroup :=
  [⟨["->", "->>", "glob", "ifnull", "instr", "json_patch", "jsonb_patch", "likelihood", "nullif",
      "sqlite_log", "timediff"], [2], false, true, 0x200800⟩,
    ⟨["abs", "hex", "json", "json_error_position", "jsonb", "length", "likely", "lower",
      "octet_length", "quote", "sign", "soundex", "subtype", "typeof", "unicode", "unlikely",
      "upper", "zeroblob"], [1], false, true, 0x200800⟩,
    ⟨["char", "coalesce", "concat", "concat_ws", "date", "datetime", "format", "json_extract",
      "json_remove", "jsonb_extract", "jsonb_remove", "julianday", "max", "min", "printf",
      "strftime", "time", "unixepoch"], [-1], false, true, 0x200800⟩,
    ⟨["if", "iif", "like", "substr", "substring"], [2, 3], false, true, 0x200800⟩,
    ⟨["json_array_length", "json_pretty", "json_type", "json_valid", "ltrim", "round", "rtrim",
      "trim", "unhex"], [1, 2], false, true, 0x200800⟩,
    ⟨["replace"], [3], false, true, 0x200800⟩]

/-- Functions that depend on more than their arguments, or on where these come from. -/
def otherFunctions : List FunctionGroup :=
  [⟨["changes", "current_date", "current_time", "current_timestamp", "last_insert_rowid",
      "random", "sqlite_source_id", "sqlite_version", "total_changes"], [0], false, true,
      0x200000⟩,
    ⟨["randomblob", "sqlite_compileoption_get", "sqlite_compileoption_used"], [1], false, true,
      0x200000⟩,
    ⟨["json_array", "json_insert", "json_object", "json_replace", "json_set", "jsonb_array",
      "jsonb_insert", "jsonb_object", "jsonb_replace", "jsonb_set"], [-1], false, true, 0x300800⟩,
    ⟨["json_quote"], [1], false, true, 0x300800⟩,
    ⟨["load_extension"], [1, 2], false, true, 0x80000⟩]

/-- Functions of many rows. -/
def windowFunctions : List FunctionGroup :=
  [⟨["avg", "first_value", "last_value", "max", "min", "ntile", "sum", "total"], [1], true, true,
      0x200000⟩,
    ⟨["count"], [0, 1], true, true, 0x200000⟩,
    ⟨["cume_dist", "dense_rank", "percent_rank", "rank", "row_number"], [0], true, true,
      0x200000⟩,
    ⟨["group_concat"], [1, 2], true, true, 0x200000⟩,
    ⟨["lag", "lead"], [1, 3, 2], true, true, 0x200000⟩,
    ⟨["nth_value", "string_agg"], [2], true, true, 0x200000⟩,
    ⟨["json_group_array", "jsonb_group_array"], [1], true, true, 0x300800⟩,
    ⟨["json_group_object", "jsonb_group_object"], [2], true, true, 0x300800⟩]

/-- Functions that were added. -/
def addedFunctions : List FunctionGroup :=
  [⟨["bm25", "fts5_get_locale", "highlight", "rtreecheck", "snippet"], [-1], false, false, 0⟩,
    ⟨["fts5", "offsets", "optimize", "rtreedepth"], [1], false, false, 0⟩,
    ⟨["match", "rtreenode"], [2], false, false, 0⟩,
    ⟨["matchinfo"], [2, 1], false, false, 0⟩,
    ⟨["casefold"], [1], false, false, 0x800⟩,
    ⟨["fts3_tokenizer"], [2, 1], false, false, 0x80000⟩,
    ⟨["fts5_insttoken"], [1], false, false, 0x200000⟩,
    ⟨["fts5_locale"], [2], false, false, 0x300000⟩,
    ⟨["fts5_source_id"], [0], false, false, 0x200800⟩]

/-- The names of the functions that are there from the beginning, in the order in which they are
gone through: in groups by the sum of the first character and the length, modulo 23, and in each
group the latest first. -/
def builtInNames : List String :=
  ["group_concat", "json_type", "jsonb_set", "julianday", "ntile", "nullif",
    "sqlite_compileoption_get", "json_valid", "json_quote", "json_patch", "->", "json_array",
    "current_timestamp", "sqlite_compileoption_used", "json_remove", "json_pretty",
    "jsonb_patch", "json_object", "json_insert", "->>", "jsonb_array", "sum", "quote",
    "printf", "likelihood", "json_replace", "jsonb_remove", "jsonb_object", "jsonb_insert",
    "json_extract", "last_value", "rank", "sign", "round", "rtrim", "jsonb_replace",
    "jsonb_extract", "nth_value", "random", "trim", "time", "total", "substr", "replace",
    "unhex", "upper", "subtype", "typeof", "load_extension", "soundex", "json_group_array",
    "avg", "abs", "octet_length", "json_group_object", "jsonb_group_array",
    "json_array_length", "strftime", "substring", "randomblob", "unicode",
    "jsonb_group_object", "timediff", "percent_rank", "row_number", "string_agg",
    "last_insert_rowid", "sqlite_log", "unlikely", "json_error_position", "char", "unixepoch",
    "count", "date", "concat", "total_changes", "changes", "sqlite_version", "if", "coalesce",
    "glob", "zeroblob", "hex", "iif", "sqlite_source_id", "concat_ws", "format", "datetime",
    "cume_dist", "instr", "json", "dense_rank", "ifnull", "jsonb", "current_date",
    "current_time", "lag", "like", "max", "min", "lead", "lower", "ltrim", "first_value",
    "length", "likely", "json_set"]

/-- The names of the functions that were added, one after the other. -/
def addedNames : List String :=
  ["match", "fts3_tokenizer", "snippet", "offsets", "matchinfo", "optimize", "highlight", "bm25",
    "fts5_get_locale", "fts5", "fts5_source_id", "fts5_locale", "fts5_insttoken", "rtreenode",
    "rtreedepth", "rtreecheck", "casefold"]

/-- All functions in the order in which they are gone through. -/
def functions : List NamedFunction :=
  let all := (pureFunctions ++ otherFunctions ++ windowFunctions ++ addedFunctions).flatMap
    NamedFunction.ofGroup
  (builtInNames ++ (NameOrder.ofList addedNames).names).flatMap fun name =>
    all.filter fun function => function.name == name

/-- The options with which the database was made. -/
def options : List String :=
  ["ATOMIC_INTRINSICS=1", "COMPILER=gcc-12.2.0", "DEFAULT_AUTOVACUUM", "DEFAULT_CACHE_SIZE=-2000",
    "DEFAULT_FILE_FORMAT=4", "DEFAULT_FOREIGN_KEYS", "DEFAULT_JOURNAL_SIZE_LIMIT=-1",
    "DEFAULT_MMAP_SIZE=0", "DEFAULT_PAGE_SIZE=4096", "DEFAULT_PCACHE_INITSZ=20",
    "DEFAULT_RECURSIVE_TRIGGERS", "DEFAULT_SECTOR_SIZE=4096", "DEFAULT_SYNCHRONOUS=2",
    "DEFAULT_WAL_AUTOCHECKPOINT=1000", "DEFAULT_WAL_SYNCHRONOUS=2", "DEFAULT_WORKER_THREADS=0",
    "DIRECT_OVERFLOW_READ", "ENABLE_API_ARMOR", "ENABLE_COLUMN_METADATA", "ENABLE_DBSTAT_VTAB",
    "ENABLE_FTS3", "ENABLE_FTS3_PARENTHESIS", "ENABLE_FTS5", "ENABLE_LOAD_EXTENSION",
    "ENABLE_MEMORY_MANAGEMENT", "ENABLE_RTREE", "ENABLE_STAT4", "HAVE_ISNAN",
    "MALLOC_SOFT_LIMIT=1024", "MAX_ATTACHED=10", "MAX_COLUMN=2000", "MAX_COMPOUND_SELECT=500",
    "MAX_DEFAULT_PAGE_SIZE=8192", "MAX_EXPR_DEPTH=1000", "MAX_FUNCTION_ARG=1000",
    "MAX_LENGTH=1000000000", "MAX_LIKE_PATTERN_LENGTH=50000", "MAX_MMAP_SIZE=0x7fff0000",
    "MAX_PAGE_COUNT=0xfffffffe", "MAX_PAGE_SIZE=65536", "MAX_SQL_LENGTH=1000000000",
    "MAX_TRIGGER_DEPTH=1000", "MAX_VARIABLE_NUMBER=32766", "MAX_VDBE_OP=250000000",
    "MAX_WORKER_THREADS=8", "MUTEX_PTHREADS", "SOUNDEX", "SYSTEM_MALLOC", "TEMP_STORE=1",
    "THREADSAFE=1", "USE_URI"]

/-- The kinds of tables that are not for a setting, in the order in which they were added. -/
def tableKinds : List String :=
  ["fts4aux", "fts3", "fts4", "fts3tokenize", "fts5", "fts5vocab", "rtree", "rtree_i32", "dbstat",
    "json_each", "json_tree"]

/-- The names of the rules by which texts are compared. -/
def collations : List String := ["RTRIM", "NOCASE", "BINARY"]

end Inventory
end FieldSearch.Database
