import TieredSearch.Text.Lower

/-!
# Comparison operators

The operators of a filter and the bounds of a range.
-/

namespace TieredSearch

/-- A bound of a range. -/
inductive Bound where
  /-- Strictly above. -/
  | gt
  /-- At or above. -/
  | gte
  /-- Strictly below. -/
  | lt
  /-- At or below. -/
  | lte
  deriving DecidableEq, Repr

/-- The bound's key in a query. -/
def Bound.name : Bound → String
  | .gt => "gt"
  | .gte => "gte"
  | .lt => "lt"
  | .lte => "lte"

/-- A comparison of a field with an operand. -/
inductive Operator where
  /-- Some value equals the operand. -/
  | eq
  /-- No value equals the operand. -/
  | ne
  /-- Some value is among the operands. -/
  | among
  /-- Some value lies within the bound. -/
  | range (bound : Bound)
  deriving DecidableEq, Repr

namespace Operator

/-- The canonical name. -/
def name : Operator → String
  | .eq => "eq"
  | .ne => "ne"
  | .among => "in"
  | .range b => b.name

/-- The operator of a name or a sign, in any case. -/
def ofText? (text : String) : Option Operator :=
  match Text.lowerAscii text with
  | "eq" | "=" => some .eq
  | "ne" | "!=" => some .ne
  | "in" => some .among
  | "gt" | ">" => some (.range .gt)
  | "gte" | ">=" => some (.range .gte)
  | "lt" | "<" => some (.range .lt)
  | "lte" | "<=" => some (.range .lte)
  | _ => none

end Operator

end TieredSearch
