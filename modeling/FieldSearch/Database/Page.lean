import FieldSearch.Database.Payload

/-!
# Pages

A database is kept in pages of one size. A page of a tree holds entries: in the tree of a table the
rows stand in the leaves, and an inner page holds only numbers of rows between its children; in the
tree of an index an entry stands between two children like any other. An entry that is too large
for its page keeps a part of its payload there, and the rest goes to pages of its own.

When entries are to be distributed over neighbouring pages, each page is first filled from the left
as far as it goes; then, from the right, entries are moved over until two neighbours are even. In a
tree where dividers are entries of their own, the entry between two pages belongs to neither.
-/

namespace FieldSearch.Database

/-- The number of bytes of a page. -/
def pageBytes : Nat := 4096

/-- What a tree of pages is for. -/
inductive TreeKind where
  | table
  | index
deriving DecidableEq, Repr

/-- An entry of a page. -/
structure Entry where
  /-- The number of bytes to be kept. -/
  payload : Nat := 0
  /-- The key, in an index. -/
  key : Cell := .null
  /-- The number of the row. -/
  number : Int
  /-- The pages of what does not fit. -/
  spill : List Nat := []
deriving DecidableEq, Repr

/-- The order of entries. -/
def Entry.cmp (left right : Entry) : Ordering :=
  (left.key.cmp right.key).then (compare left.number right.number)

/-- A page of a tree. -/
structure Page where
  isLeaf : Bool := true
  entries : List Entry := []
  /-- The pages below, one more than there are entries; none below a leaf. -/
  children : List Nat := []
deriving DecidableEq, Repr

/-! ## Sizes -/

/-- The largest payload that is kept in one piece. -/
def maxLocal : TreeKind → Nat
  | .table => pageBytes - 35
  | .index => (pageBytes - 12) * 64 / 255 - 23

/-- The least part of a payload that stays in its page. -/
def minLocal : Nat := (pageBytes - 12) * 32 / 255 - 23

/-- The payload of a page that only carries on an entry. -/
def spillBytes : Nat := pageBytes - 4

/-- The part of a payload that stays in its page. -/
def localBytes (kind : TreeKind) (payload : Nat) : Nat :=
  if payload ≤ maxLocal kind then payload
  else
    let rest := minLocal + (payload - minLocal) % spillBytes
    if rest ≤ maxLocal kind then rest else minLocal

/-- The number of pages for the rest of a payload. -/
def spillCount (kind : TreeKind) (payload : Nat) : Nat :=
  (payload - localBytes kind payload + spillBytes - 1) / spillBytes

/-- The number of bytes of an entry with its payload. -/
def Entry.ownBytes (kind : TreeKind) (entry : Entry) : Nat :=
  groups entry.payload + (if kind = .table then numberBytes entry.number else 0) +
    localBytes kind entry.payload + (if entry.payload ≤ maxLocal kind then 0 else 4)

/-- The number of bytes of an entry in a leaf or an inner page; an inner entry has a child. -/
def Entry.bytes (kind : TreeKind) (isLeaf : Bool) (entry : Entry) : Nat :=
  if isLeaf then max 4 (entry.ownBytes kind)
  else
    match kind with
    | .table => 4 + numberBytes entry.number
    | .index => 4 + entry.ownBytes kind

/-- The room for entries in a page that is not the first. -/
def roomIn (isLeaf : Bool) : Nat := pageBytes - (if isLeaf then 8 else 12)

/-- The bytes at the beginning of the first page that tell about the database. -/
def headerBytes (number : Nat) : Nat := if number = 1 then 100 else 0

namespace Page

/-- The number of bytes that the entries of a page take, two of them for their places. -/
def usedBytes (kind : TreeKind) (page : Page) : Nat :=
  page.entries.foldl (fun sum entry => sum + (entry.bytes kind page.isLeaf + 2)) 0

/-- The room for entries in the page of a number. -/
def capacity (number : Nat) (page : Page) : Nat := roomIn page.isLeaf - headerBytes number

/-- Whether a page holds more than it can. -/
def isOverfull (kind : TreeKind) (number : Nat) (page : Page) : Bool :=
  decide (page.capacity number < page.usedBytes kind)

/-- The bytes that are left in a page. -/
def freeBytes (kind : TreeKind) (number : Nat) (page : Page) : Nat :=
  page.capacity number - page.usedBytes kind

/-- Whether a page is filled to less than a third. -/
def isSparse (kind : TreeKind) (number : Nat) (page : Page) : Bool :=
  decide (pageBytes * 2 < page.freeBytes kind number * 3)

end Page

/-! ## Distributing entries -/

/-- The longest run of entries that fit into a room: their number and their bytes. -/
def fill : Nat → List Nat → Nat × Nat
  | _, [] => (0, 0)
  | room, size :: rest =>
      if size + 2 ≤ room then
        let (count, bytes) := fill (room - (size + 2)) rest
        (count + 1, bytes + (size + 2))
      else (0, 0)

/-- A page while entries are distributed: the place behind its last entry, and its bytes. -/
structure Share where
  stop : Nat
  bytes : Int

/-- Fills pages from the left, at most `fuel` of them; `gap` entries stand between two pages. -/
def fillAll (room gap : Nat) : Nat → Nat → List Nat → List Share
  | 0, _, _ => []
  | fuel + 1, start, sizes =>
      let (count, bytes) := fill room sizes
      let share : Share := ⟨start + count, bytes⟩
      if count = sizes.length then [share]
      else share :: fillAll room gap fuel (start + count + gap) (sizes.drop (count + gap))

/-- Moves entries from the end of a page to the beginning of the next until the two are even; the
last entry of the left page is at `last`. -/
def level (sizes : Array Nat) (gap slack : Nat) : (last : Nat) → (left right : Int) →
    Nat × Int × Int
  | last, left, right =>
      let leaving : Int := sizes.getD last 0
      let coming : Int := sizes.getD (last + gap) 0
      if right ≠ 0 ∧ left - (leaving + slack) < right + coming + 2 then (last + 1, left, right)
      else
        match last with
        | 0 => (0, left - (leaving + 2), right + (coming + 2))
        | last + 1 =>
            level sizes gap slack last (left - (leaving + 2)) (right + (coming + 2))

/-- Evens out pages from the right: the places behind their last entries, the last page first. -/
def levelAll (sizes : Array Nat) (gap : Nat) : (slack : Nat) → Share → List Share → List Nat
  | _, right, [] => [right.stop]
  | slack, right, left :: rest =>
      match left.stop with
      | 0 => right.stop :: levelAll sizes gap 2 left rest
      | last + 1 =>
          let (stop, bytes, _) := level sizes gap slack last left.bytes right.bytes
          right.stop :: levelAll sizes gap 2 ⟨stop, bytes⟩ rest

/-- The places behind the last entries of the pages over which entries of some sizes are
distributed. -/
def distribute (room gap : Nat) (sizes : List Nat) : List Nat :=
  match (fillAll room gap (sizes.length + 1) 0 sizes).reverse with
  | [] => []
  | last :: rest => (levelAll sizes.toArray gap 0 last rest).reverse

end FieldSearch.Database
