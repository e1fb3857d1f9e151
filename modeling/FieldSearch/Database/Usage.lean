import FieldSearch.Database.Layout
import FieldSearch.Database.SystemTable

/-!
# How pages are used

A table of all pages of a database: for every tree its pages on the way from the root, each with its
path, how many entries and how much payload it holds, and how much of it is left. An entry that goes
on in other pages is followed by these. The table can be asked about the pages of one tree, and for
the sum over each tree instead of its single pages.
-/

namespace FieldSearch.Database

/-- A page of a tree as it is used. -/
structure PageUse where
  path : String
  number : Nat
  kind : String
  entries : Nat := 0
  payload : Nat
  unused : Nat
  greatest : Nat := 0
  /-- Where the page is said to begin. -/
  offset : Nat
deriving Repr

namespace PageUse

/-- A number in hexadecimal digits, at least `width` of them. -/
def hex (width n : Nat) : List Char :=
  let digits := Nat.toDigits 16 n
  List.replicate (width - digits.length) '0' ++ digits

/-- A number in a path. -/
def step (width n : Nat) : String := String.ofList (hex width n)

/-- Where a page begins. -/
def begins (number : Nat) : Nat := (number - 1) * pageBytes

/-- The pages in which an entry goes on. An offset is that of the page told of before, which is
`last`. -/
def ofSpill (kind : TreeKind) (path : String) (entry : Entry) :
    (index last : Nat) → List Nat → List PageUse
  | _, _, [] => []
  | index, last, number :: rest =>
      let rest' := entry.payload - localBytes kind entry.payload - index * spillBytes
      let payload := min rest' spillBytes
      { path := path ++ "+" ++ step 6 index
        number
        kind := "overflow"
        payload
        unused := spillBytes - payload
        offset := begins last } :: ofSpill kind path entry (index + 1) number rest

/-- The use of a page itself. -/
def ofPage (kind : TreeKind) (path : String) (number : Nat) (page : Page) : PageUse where
  path
  number
  kind := if page.isLeaf then "leaf" else "internal"
  entries := page.entries.length
  payload := page.entries.foldl (fun sum entry => sum + localBytes kind entry.payload) 0
  unused := page.freeBytes kind number
  greatest := page.entries.foldl (fun greatest entry => max greatest entry.payload) 0
  offset := begins number

mutual

/-- The pages below and at the root of a tree of at most `fuel` levels. -/
def ofTree (storage : Storage) (kind : TreeKind) :
    (fuel : Nat) → (path : String) → (number : Nat) → List PageUse
  | 0, _, _ => []
  | fuel + 1, path, number =>
      let page := storage.page number
      ofPage kind path number page ::
        ofEntries storage kind fuel path number 0 page.entries page.children

/-- The pages that follow a page: for each entry those in which it goes on, and the child before it;
behind them the last child. -/
def ofEntries (storage : Storage) (kind : TreeKind) :
    (fuel : Nat) → (path : String) → (last index : Nat) → List Entry → List Nat → List PageUse
  | fuel, path, _, index, [], children =>
      match children, fuel with
      | child :: _, fuel + 1 => ofTree storage kind fuel (path ++ step 3 index ++ "/") child
      | _, _ => []
  | 0, _, _, _, _ :: _, _ => []
  | fuel + 1, path, last, index, entry :: entries, children =>
      let spilled := ofSpill kind (path ++ step 3 index) entry 0 last entry.spill
      let below := match children with
        | child :: _ => ofTree storage kind fuel (path ++ step 3 index ++ "/") child
        | [] => []
      let told := spilled ++ below
      let last := (told.getLast?.map number).getD last
      told ++ ofEntries storage kind fuel path last (index + 1) entries children.tail

end

end PageUse

/-- The trees of a layout: the catalog, and for each table its tree and that of its index. -/
def Layout.trees (layout : Layout) (tables : List Table) : List (String × TreeKind × Nat) :=
  if layout.isEmpty then []
  else
    ("sqlite_schema", .table, catalogPage) :: layout.roots.flatMap fun root =>
      let indexName := ((tables.find? fun table => table.name == root.table).map
        Table.indexName).getD ""
      (root.table, .table, root.page) ::
        (root.index.map fun page => (indexName, .index, page)).toList

/-- The pages of a tree. -/
def Layout.uses (layout : Layout) (kind : TreeKind) (root : Nat) : List PageUse :=
  let entries := layout.storage.pages.foldl (fun sum page => sum + page.entries.length + 1) 0
  PageUse.ofTree layout.storage kind (2 * entries + 2) "/" root

namespace PageUse

/-- The columns of the table of pages. -/
def columns : List SystemColumn :=
  [⟨"name", "TEXT", false⟩, ⟨"path", "TEXT", false⟩, ⟨"pageno", "INTEGER", false⟩,
    ⟨"pagetype", "TEXT", false⟩, ⟨"ncell", "INTEGER", false⟩, ⟨"payload", "INTEGER", false⟩,
    ⟨"unused", "INTEGER", false⟩, ⟨"mx_payload", "INTEGER", false⟩,
    ⟨"pgoffset", "INTEGER", false⟩, ⟨"pgsize", "INTEGER", false⟩, ⟨"schema", "TEXT", true⟩,
    ⟨"aggregate", "BOOLEAN", true⟩]

/-- The row of a page of a tree. -/
def row (tree schema : String) (use : PageUse) : Row where
  number := use.number
  cells := [.text tree, .text use.path, .integer use.number, .text use.kind,
    .integer use.entries, .integer use.payload, .integer use.unused, .integer use.greatest,
    .integer use.offset, .integer pageBytes, .text schema, .integer 0]

/-- The row of the sum over the pages of a tree, of which `root` is the first; its number is that of
the last page told of. -/
def sumRow (tree schema : String) (uses : List PageUse) : Row :=
  let sum (f : PageUse → Nat) : Nat := uses.foldl (fun sum use => sum + f use) 0
  let last := ((uses.filter fun use => use.kind != "overflow").getLast?.map number).getD 0
  { number := last
    cells := [.text tree, .null, .integer uses.length, .null, .integer (sum entries),
      .integer (sum payload), .integer (sum unused),
      .integer (uses.foldl (fun greatest use => max greatest use.greatest) 0), .null,
      .integer (uses.length * pageBytes), .text schema, .integer 1] }

end PageUse

/-! ## The table -/

namespace UsageTable

/-- The place of the column of trees. -/
def nameColumn : Nat := 0

/-- The place of the column that is asked for its schema. -/
def schemaColumn : Nat := 10

/-- The place of the column that is asked for sums. -/
def sumColumn : Nat := 11

/-- Whether a question is about a schema. -/
def isAbout (schema : String) (question : Question) : Bool :=
  ((question.text? schemaColumn).map (Text.sameIgnoringAsciiCase schema)).getD (schema == "main")

/-- Whether a question asks for sums. A value that is neither one nor zero is never found again in a
row, so it does not matter what it asks for. -/
def asksSums (question : Question) : Bool :=
  (question.lookup sumColumn).any fun cell => cell.convert .integer == .integer 1

/-- The rows with which a question is answered. -/
def rows (layout : Layout) (tables : List Table) (question : Question) : List Row :=
  let isAsked (name : String) : Bool := (question.text? nameColumn).all fun asked => asked == name
  if !isAbout "main" question then []
  else
    (layout.trees tables).flatMap fun (name, kind, root) =>
      if !isAsked name then []
      else if asksSums question then [PageUse.sumRow name "main" (layout.uses kind root)]
      else (layout.uses kind root).map (PageUse.row name "main")

/-- The table of the pages that tables are kept in. -/
def table (layout : Thunk Layout) (tables : List Table) : SystemTable where
  name := "dbstat"
  columns := PageUse.columns
  taking :=
    { columns := [schemaColumn, nameColumn, sumColumn]
      needsFirst := false
      checkedAgain := [nameColumn, sumColumn] }
  answer question := pure (rows layout.get tables question)
  opensTemporary := isAbout "temp"

end UsageTable
end FieldSearch.Database
