import FieldSearch.Database.Fault
import FieldSearch.Query.Select

/-!
# Statements in hand

A selection together with the statement that expresses it. The statement is what a database is
sent, and the selection is what it means. Four things that can be written down are no statements of
the database file: a choice among no conditions, which leaves empty parentheses, more parameters
than it takes, conditions that are combined to too great a height, and a name with a NUL, at which
the statement ends with the name unfinished. The statement is read from left to right, and what is
come upon first is the fault.

Conditions are combined two by two, the first two first: a combination is one higher than the higher
of its sides, and parentheses add nothing. So of a thousand alternatives the first is the deepest.
-/

namespace FieldSearch

open Database (Fault)

/-- How far a statement has been read. -/
structure Reading where
  sql : String
  /-- The number of bytes before. -/
  offset : Nat := 0
  /-- The number of parameters before. -/
  count : Nat := 0

namespace Reading

/-- The greatest number of parameters. -/
def maxParameters : Nat := 32766

/-- The greatest height of a condition. -/
def maxHeight : Nat := 1000

/-- Reads a piece. -/
def piece (reading : Reading) (piece : Sql.Piece) : Except Fault Reading :=
  let count := reading.count + piece.values.length
  let text := piece.text .sqlite reading.count
  if maxParameters < count then throw (.tooManyParameters reading.sql reading.offset)
  else if text.toList.any (·.toNat = 0) then
    throw (.unrecognizedToken (String.ofList (Text.untilNul text)) reading.sql reading.offset)
  else pure { reading with offset := reading.offset + text.utf8ByteSize, count }

/-- Reads pieces. -/
def template (reading : Reading) (template : Sql.Template) : Except Fault Reading :=
  template.foldlM Reading.piece reading

/-- Reads a fixed text. -/
def fixed (reading : Reading) (text : String) : Except Fault Reading :=
  reading.piece (.fixed text)

/-- Reads what a rendering has come to. -/
def rendering (reading : Reading) : Sql.Rendering → Except Fault Reading
  | .done template => reading.template template
  | .refused before _ => reading.template before

/-- The height of a condition behind those before it, if there are any. -/
def combine (before : Option Nat) (height : Nat) : Except Fault Nat :=
  match before with
  | none => pure height
  | some before =>
      let combined := max before height + 1
      if maxHeight < combined then throw (.expressionTooHigh maxHeight) else pure combined

/-- The height of a comparison of a name with a value or a number with a number. -/
def comparisonHeight : Nat := 2

/-- The height of a match: a name or a parameter, its folding, and the match. -/
def matchHeight : Nat := 3

mutual

/-- Reads a condition; beside the rest its height. -/
def predicate (reading : Reading) : Predicate → Except Fault (Nat × Reading)
  | .always => do pure (comparisonHeight, ← reading.rendering (.fixed "1 = 1"))
  | .never => do pure (comparisonHeight, ← reading.rendering (.fixed "1 = 0"))
  | .single clause => do
      pure (matchHeight, ← reading.rendering (Sql.renderClause .sqlite none clause))
  | .any choices => do
      let (height, last) ← alternatives (← reading.fixed "(") none choices
      match height with
      | some height => pure (height, ← last.fixed ")")
      | none => throw (.emptyChoice last.sql last.offset)

/-- Reads the alternatives of a choice behind others of a height. -/
def alternatives (reading : Reading) (before : Option Nat) :
    List Predicate → Except Fault (Option Nat × Reading)
  | [] => pure (before, reading)
  | alternative :: rest => do
      let start ← if before.isSome then reading.fixed " OR " else pure reading
      let (height, last) ← predicate start alternative
      alternatives last (some (← combine before height)) rest

end

/-- Reads a filter that narrows something. A choice among one value is written as a comparison with
that value, which is one higher. -/
def filter (reading : Reading) (filter : Filter) : Except Fault (Nat × Reading) :=
  match filter with
  | .search condition => reading.predicate condition
  | other => do
      let height := match other with
        | .idIn _ [_] => comparisonHeight + 1
        | _ => comparisonHeight
      match Sql.renderFilter .sqlite none other with
      | some rendering => pure (height, ← reading.rendering rendering)
      | none => pure (height, reading)

/-- Reads filters behind others of a height. -/
def filters (reading : Reading) (before : Option Nat) : List Filter → Except Fault Reading
  | [] => pure reading
  | .search .always :: rest => filters reading before rest
  | condition :: rest => do
      let start ← reading.fixed (if before.isSome then " AND " else " WHERE ")
      let (height, last) ← start.filter condition
      filters last (some (← combine before height)) rest

end Reading

/-- A selection and the statement that expresses it. -/
structure Prepared where
  select : Select
  fragment : Sql.Fragment

/-- Why the database file does not take the statement, if it does not. What follows the conditions
is never at fault. -/
def Prepared.fault? (prepared : Prepared) : Option Fault :=
  let reading : Except Fault Reading := do
    let start ← Reading.template ⟨prepared.fragment.sql, 0, 0⟩ (Sql.selectHead prepared.select)
    start.filters none prepared.select.filters
  match reading with
  | .ok _ => none
  | .error fault => some fault

end FieldSearch
