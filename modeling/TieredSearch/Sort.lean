import TieredSearch.Json.Printer
import TieredSearch.Schema.Basic
import TieredSearch.Error

/-!
# Sort orders

A sort order is written as an object `field: direction`, or as a list of objects with one such
member each. Every entry becomes one clause, in the order given.
-/

namespace TieredSearch

/-- Which end comes first. -/
inductive Direction where
  /-- The smallest value first. -/
  | asc
  /-- The greatest value first. -/
  | desc
  deriving DecidableEq, Repr

/-- The name of a direction. -/
def Direction.name : Direction → String
  | .asc => "asc"
  | .desc => "desc"

/-- The direction of a name. -/
def Direction.ofText? (text : String) : Option Direction :=
  if text = "asc" then some .asc else if text = "desc" then some .desc else none

/-- One field to sort by. -/
structure SortClause where
  /-- The field. -/
  field : String
  /-- Which end comes first. -/
  direction : Direction
  /-- The innermost nested objects around the field. -/
  nestedPath : Option String
  deriving DecidableEq, Repr

namespace SortClause

variable {R : Type} [Scalar R]

/-- The JSON of a clause. -/
def toJson (c : SortClause) : Json R :=
  .obj [(c.field, Json.object [
    ("order", some (.str c.direction.name)),
    ("nested", c.nestedPath.map fun p => .obj [("path", .str p)])])]

/-- The clause of one entry. -/
def ofEntry (s : Schema) (field : String) (direction : Json R) : Except QueryError SortClause :=
  match s.field? field with
  | none => .error (.invalidSort (.unknownField field s.index))
  | some f =>
    match direction.str?.bind Direction.ofText? with
    | none => .error (.invalidSort (.unknownDirection field direction.compact))
    | some d => .ok ⟨field, d, f.nestedPath.getLast?⟩

/-- The clauses of several entries. -/
def ofEntries (s : Schema) : List (String × Json R) → Except QueryError (List SortClause)
  | [] => .ok []
  | (field, direction) :: rest => do
    let clause ← ofEntry s field direction
    return clause :: (← ofEntries s rest)

/-- The entries of a list of objects with one member each. -/
def entriesOf : List (Json R) → Except QueryError (List (String × Json R))
  | [] => .ok []
  | .obj [entry] :: rest => (entriesOf rest).map (entry :: ·)
  | item :: _ => .error (.invalidSort (.entryNotSingle item.compact))

/-- The clauses of a sort order; null asks for none. -/
def ofJson (s : Schema) : Json R → Except QueryError (Option (List SortClause))
  | .null => .ok none
  | .obj members => (ofEntries s members).map some
  | .arr items => do
    let entries ← entriesOf items
    let clauses ← ofEntries s entries
    return some clauses
  | order => .error (.invalidSort (.notAList order.compact))

end SortClause

end TieredSearch
