import FieldSearch.Database.Page

/-!
# Trees of pages

Entries are kept in a tree of pages, in rising order. A new entry goes to the leaf where it belongs.
If the leaf becomes overfull its entries are distributed over it and its neighbours, at most three
pages that may become more or fewer, and the same is done with the page above if that is overfull
then, or almost empty. An entry behind the last of all gets a leaf of its own instead, as rows are
mostly added at the end. The root keeps its page: when it is overfull all that it holds goes to a
new page below it, and when a single page is left below it takes that page's place.

Pages are numbered from one. A page that is given up is used again before the file grows: the one
given up first comes last, and of the others the one nearest to a page that is already in use.
-/

namespace FieldSearch.Database

/-- The pages of a database. -/
structure Storage where
  /-- All pages; none has the number zero, which stands for the first of them. -/
  pages : Array Page := #[]
  /-- The pages that were given up, in the order in which they were. -/
  free : List Nat := []
deriving DecidableEq, Repr

namespace Storage

/-- The number of pages. -/
def size (storage : Storage) : Nat := storage.pages.size - 1

/-- The page of a number. -/
def page (storage : Storage) (number : Nat) : Page := storage.pages.getD number {}

/-- Puts a page in the place of a number. -/
def put (storage : Storage) (number : Nat) (page : Page) : Storage :=
  { storage with pages := storage.pages.setIfInBounds number page }

/-- The distance of two pages. -/
def distance (left right : Nat) : Nat := (left - right) + (right - left)

/-- The first of the nearest pages to a page, among pages from a place on. -/
def nearest (page : Nat) : (place : Nat) → (best : Nat × Nat) → List Nat → Nat
  | _, best, [] => best.1
  | place, best, other :: rest =>
      let apart := distance other page
      nearest page (place + 1) (if apart < best.2 then (place, apart) else best) rest

/-- A page for something new, with a page that it should be near, zero for none. -/
def allocate (storage : Storage) (near : Nat) : Nat × Storage :=
  match storage.free with
  | [] => (storage.pages.size, { storage with pages := storage.pages.push {} })
  | [oldest] => (oldest, { storage.put oldest {} with free := [] })
  | oldest :: first :: rest =>
      let others := first :: rest
      let place := if near = 0 then 0 else nearest near 1 (0, distance first near) rest
      let taken := others.getD place first
      let last := others.getLastD first
      let left := if place + 1 < others.length then others.dropLast.set place last
        else others.dropLast
      (taken, { storage.put taken {} with free := oldest :: left })

/-- Pages for something new, each near the one before. -/
def allocateChain : Nat → Nat → Storage → List Nat × Storage
  | _, 0, storage => ([], storage)
  | near, count + 1, storage =>
      let (number, storage) := storage.allocate near
      let (others, storage) := allocateChain number count storage
      (number :: others, storage)

/-- Gives a page up. -/
def release (storage : Storage) (number : Nat) : Storage :=
  { storage.put number {} with free := storage.free ++ [number] }

/-! ## Balancing -/

/-- The neighbours that are balanced with a page: the place of the first among the children of the
page above, and the number of entries between them, which is at most two. -/
def window (entries place : Nat) : Nat × Nat :=
  if entries < 2 then (0, entries)
  else if place = 0 then (0, 2)
  else if place = entries then (entries - 2, 2)
  else (place - 1, 2)

/-- The entries of pages, with the entries between the pages in their places. -/
def gather : List Page → List Entry → List Entry
  | [], _ => []
  | page :: pages, [] => page.entries ++ gather pages []
  | page :: pages, between :: rest => page.entries ++ between :: gather pages rest

/-- The pages of entries and children that are cut at given places, `gap` entries standing between
two pages. -/
def cut (isLeaf : Bool) (gap : Nat) (entries : List Entry) (children : List Nat) :
    (start : Nat) → List Nat → List Page
  | _, [] => []
  | start, stop :: rest =>
      { isLeaf
        entries := (entries.drop start).take (stop - start)
        children := if isLeaf then [] else (children.drop start).take (stop - start + 1) } ::
      cut isLeaf gap entries children (stop + gap) rest

/-- The entries for the page above that stand between pages cut at given places: the entries left
out there, or, where none are, the numbers of the last rows before. -/
def dividers (gap : Nat) (entries : Array Entry) (stops : List Nat) : List Entry :=
  stops.dropLast.map fun stop =>
    if gap = 0 then { number := (entries.getD (stop - 1) { number := 0 }).number }
    else entries.getD stop { number := 0 }

/-- Balances the child at a place of a page with its neighbours. -/
def balance (kind : TreeKind) (isRoot : Bool) (number place : Nat) (storage : Storage) :
    Storage :=
  let above := storage.page number
  let (first, between) := window above.entries.length place
  let old := (above.children.drop first).take (between + 1)
  let pages := old.map storage.page
  let isLeaf := (pages.head?.map Page.isLeaf).getD true
  let gap := if isLeaf ∧ kind = .table then 0 else 1
  let entries := gather pages (if gap = 0 then [] else (above.entries.drop first).take between)
  let stops := distribute (roomIn isLeaf) gap (entries.map (Entry.bytes kind isLeaf))
  let (added, storage) := storage.allocateChain (old.headD 0) (stops.length - old.length)
  let numbers := (old.take stops.length ++ added).mergeSort
  let new := cut isLeaf gap entries (pages.flatMap Page.children) 0 stops
  let storage := (numbers.zip new).foldl (fun storage (number, page) => storage.put number page)
    storage
  let above : Page :=
    { above with
      entries := above.entries.take first ++ dividers gap entries.toArray stops ++
        above.entries.drop (first + between)
      children := above.children.take first ++ numbers ++
        above.children.drop (first + between + 1) }
  let only := storage.page (numbers.headD 0)
  let storage :=
    if isRoot && above.entries.isEmpty && headerBytes number ≤ only.freeBytes kind 0 then
      (storage.put number only).release (numbers.headD 0)
    else storage.put number above
  (old.drop stops.length).foldl release storage

/-- Moves the last entry of a leaf to a new leaf behind it, the last below a page. -/
def extend (number leaf : Nat) (storage : Storage) : Storage :=
  let (added, storage) := storage.allocate 0
  let full := storage.page leaf
  let above := storage.page number
  let kept := full.entries.dropLast
  let divider : Entry := { number := ((kept.getLast?).map Entry.number).getD 0 }
  let storage := storage.put leaf { full with entries := kept }
  let storage := storage.put added { entries := full.entries.getLast?.toList }
  storage.put number
    { above with entries := above.entries ++ [divider], children := above.children ++ [added] }

/-- Whether a leaf gets a new leaf behind it when its last entry is one too many. -/
def canExtend (kind : TreeKind) (storage : Storage) (atEnd : Bool) (number place : Nat)
    (leaf : Nat) : Bool :=
  atEnd && kind == .table && number != 1 && (storage.page leaf).isLeaf &&
    (storage.page number).entries.length == place

/-- Moves all that the root holds to a new page below it. -/
def deepen (root : Nat) (storage : Storage) : Nat × Storage :=
  let (below, storage) := storage.allocate root
  let page := storage.page root
  (below, (storage.put below page).put root { isLeaf := false, children := [below] })

/-- Settles a page below another. -/
def settleBelow (kind : TreeKind) (atEnd isRoot : Bool) (number place page : Nat)
    (storage : Storage) : Storage :=
  if storage.canExtend kind atEnd number place page then storage.extend number page
  else storage.balance kind isRoot number place

/-- Settles a page and then those above it, each with the place of the page below among its
children; `atEnd` tells that the page is a leaf whose last entry is new. -/
def settle (kind : TreeKind) : (atEnd : Bool) → (page : Nat) → List (Nat × Nat) → Storage → Storage
  | atEnd, page, [], storage =>
      if (storage.page page).isOverfull kind page then
        let (below, storage) := storage.deepen page
        storage.settleBelow kind atEnd true page 0 below
      else storage
  | atEnd, page, (number, place) :: rest, storage =>
      let content := storage.page page
      if content.isOverfull kind page || content.isSparse kind page then
        settle kind false number rest
          (storage.settleBelow kind atEnd rest.isEmpty number place page)
      else storage

/-! ## Inserting -/

/-- The leaf where an entry belongs, with the pages above it from below, on a way of at most `fuel`
pages. -/
def wayTo (storage : Storage) (entry : Entry) :
    (fuel : Nat) → (page : Nat) → (above : List (Nat × Nat)) → Nat × List (Nat × Nat)
  | 0, page, above => (page, above)
  | fuel + 1, page, above =>
      let content := storage.page page
      if content.isLeaf then (page, above)
      else
        let place := (content.entries.takeWhile fun other => other.cmp entry == .lt).length
        wayTo storage entry fuel (content.children.getD place 0) ((page, place) :: above)

/-- Inserts an entry into the tree of a root, in the place of one that is equal to it. -/
def insert (kind : TreeKind) (root : Nat) (entry : Entry) (storage : Storage) : Storage :=
  let (spill, storage) := storage.allocateChain 0 (spillCount kind entry.payload)
  let (leaf, above) := storage.wayTo entry storage.pages.size root []
  let content := storage.page leaf
  let before := content.entries.takeWhile fun other => other.cmp entry == .lt
  let behind := (content.entries.drop before.length).dropWhile fun other => other.cmp entry == .eq
  let content := { content with entries := before ++ { entry with spill } :: behind }
  let storage := storage.put leaf content
  if content.isOverfull kind leaf then storage.settle kind behind.isEmpty leaf above else storage

end Storage
end FieldSearch.Database
