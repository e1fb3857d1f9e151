import FieldSearch.Text.Lowercase

/-!
# The order of names

Names that are looked up regardless of ASCII case are kept in one list, and told apart by a number
that is computed from their characters. As long as there are few of them the latest name comes
first. When there are ten, and whenever they have become more than twice as many as the groups into
which they are divided, groups are formed anew, twice as many as there are names: the list is gone
through, and a name goes before the last one of its group, or to the front if it is the first.
-/

namespace FieldSearch.Database

/-- The number of a name, which does not depend on the case of ASCII letters. -/
def nameNumber (name : String) : UInt32 :=
  (Text.asciiLowercase name).toUTF8.foldl (fun number byte => (number + byte.toUInt32) * 0x9e3779b1)
    0

/-- Puts a name before another, or behind all if that is not there. -/
def insertBefore (other name : String) : List String → List String
  | [] => [name]
  | first :: rest =>
      if first = other then name :: first :: rest else first :: insertBefore other name rest

/-- Names in the order in which they are kept. -/
structure NameOrder where
  names : List String := []
  /-- For each group the name that came last; no groups while there are few names. -/
  groups : Array (Option String) := #[]
deriving Repr

namespace NameOrder

/-- Puts a name into its place. -/
def place (order : NameOrder) (name : String) : NameOrder :=
  if order.groups.isEmpty then { order with names := name :: order.names }
  else
    let group := (nameNumber name).toNat % order.groups.size
    let names := match order.groups.getD group none with
      | some last => insertBefore last name order.names
      | none => name :: order.names
    { names, groups := order.groups.setIfInBounds group (some name) }

/-- The greatest number of groups. -/
def maxGroups : Nat := 64

/-- Divides the names into groups. -/
def regroup (order : NameOrder) (count : Nat) : NameOrder :=
  let count := min count maxGroups
  if count = order.groups.size then order
  else order.names.foldl place { groups := Array.replicate count none }

/-- Adds a name. -/
def add (order : NameOrder) (name : String) : NameOrder :=
  let count := order.names.length + 1
  let order := if 10 ≤ count ∧ 2 * order.groups.size < count then order.regroup (count * 2)
    else order
  order.place name

/-- Names that were added one after the other. -/
def ofList (names : List String) : NameOrder := names.foldl add {}

end NameOrder
end FieldSearch.Database
