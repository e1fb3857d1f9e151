import FieldSearch.Database.Table

/-!
# Samples of the keys of a table

From an index a database picks a limited number of entries, so that it knows roughly how its keys
are spread. Entries at regular distances are picked in any case. Of each other key that one entry is
picked that draws the greatest number; when there is no more room, the key that occurs most often
wins, and then the greater number drawn.
-/

namespace FieldSearch.Database

/-- An entry of an index as it may be picked. -/
structure KeySample where
  /-- The number of the row. -/
  number : Int
  /-- How many entries have its key. -/
  equal : Nat
  /-- How many entries have lesser keys. -/
  less : Nat
  /-- How many lesser keys there are. -/
  lessDistinct : Nat
  /-- How many entries come before it. -/
  position : Nat
  /-- The number that it draws. -/
  draw : UInt32
  /-- Whether it is picked for its distance from others. -/
  isRegular : Bool
deriving Repr

namespace KeySample

/-- The greatest number of samples. -/
def room : Nat := 24

/-- The distance between the entries that are picked in any case, out of `total`. -/
def distance (total : Nat) : Nat := total / (room / 3 + 1) + 1

/-- The number from which the numbers drawn begin; there are two columns in an index. -/
def firstDraw (total : Nat) : UInt32 :=
  (0x689e962d * 2) ^^^ (0xd0944565 * UInt32.ofNat total)

/-- The number drawn after another. -/
def nextDraw (draw : UInt32) : UInt32 := draw * 1103515245 + 12345

/-- Numbers drawn by entries, one after the other. -/
def draws : UInt32 → Nat → List UInt32
  | _, 0 => []
  | draw, count + 1 => nextDraw draw :: draws (nextDraw draw) count

/-- The entries of an index, those of one key together. -/
def ofGroups (groups : List (List Int)) : List (List KeySample) :=
  let total := (groups.map List.length).foldl (· + ·) 0
  let distance := distance total
  let draws := (draws (firstDraw total) total).toArray
  (groups.foldl (fun (done, less) group =>
    let entries := group.zipIdx.map fun (number, index) =>
      let position := less + index
      { number, equal := group.length, less, lessDistinct := done.length, position
        draw := draws.getD position 0
        isRegular := position / distance != (position + 1) / distance }
    (done ++ [entries], less + group.length)) ([], 0)).1

/-- Whether a sample of a key wins over that of another. -/
def isBetter (left right : KeySample) : Bool :=
  right.equal < left.equal || (left.equal == right.equal && right.draw < left.draw)

/-- The sample that gives way to others first, if there is one that may. -/
def worst? (samples : List KeySample) : Option KeySample :=
  (samples.filter fun sample => !sample.isRegular).foldl (fun worst? sample =>
    match worst? with
    | some worst => if worst.isBetter sample then some sample else some worst
    | none => some sample) none

/-- Samples with room for another. -/
def makeRoom (samples : List KeySample) : List KeySample :=
  if samples.length < room then samples
  else
    let worst := (worst? samples).map position
    (samples.eraseP fun sample => some sample.position == worst).take (room - 1)

/-- Adds a sample. -/
def insert (samples : List KeySample) (sample : KeySample) : List KeySample :=
  makeRoom samples ++ [sample]

/-- The entry of a key that draws the greatest number, the first of those that do. -/
def best? : List KeySample → Option KeySample
  | [] => none
  | first :: rest =>
      some (rest.foldl (fun best sample => if best.draw < sample.draw then sample else best) first)

/-- Adds the samples of one key. -/
def addGroup (samples : List KeySample) (group : List KeySample) : List KeySample :=
  match group.filter isRegular, best? group with
  | [], some best =>
      let wins := (worst? samples).any fun worst => best.isBetter worst
      if samples.length < room || wins then insert samples best else samples
  | [], none => samples
  | regular, _ => regular.foldl insert samples

/-- The entries that are picked of an index, its rows being given by their numbers, those of one key
together. -/
def pick (groups : List (List Int)) : List KeySample :=
  (ofGroups groups).foldl addGroup []

end KeySample
end FieldSearch.Database
