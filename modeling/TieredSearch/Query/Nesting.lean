import TieredSearch.Query.Basic

/-!
# Scopes and clauses of a query

Where the tests of a query stand: which nested objects are opened around each, and whether a
combination of clauses is empty.
-/

namespace TieredSearch.Query

variable {R : Type}

mutual

/-- The tests of a query from left to right, each with the nested paths opened around it,
outermost first, below the paths that are open already. -/
def testsWithin (opened : List String) : Query R → List (List String × Query R)
  | .allOf clauses => testsWithinAll opened clauses
  | .anyOf clauses => testsWithinAll opened clauses
  | .noneOf clause => testsWithin opened clause
  | .nested path clause => testsWithin (opened ++ [path]) clause
  | test => [(opened, test)]

/-- The tests of several clauses. -/
def testsWithinAll (opened : List String) : List (Query R) → List (List String × Query R)
  | [] => []
  | clause :: rest => testsWithin opened clause ++ testsWithinAll opened rest

end

/-- The field that a test is about; a keyword search is about none in particular. -/
def testedField? : Query R → Option String
  | .term field _ => some field
  | .terms field _ => some field
  | .range field _ _ => some field
  | .present field => some field
  | _ => none

mutual

/-- Whether no combination anywhere in a query is empty. -/
def isFull : Query R → Bool
  | .allOf clauses => !clauses.isEmpty && areFull clauses
  | .anyOf clauses => !clauses.isEmpty && areFull clauses
  | .noneOf clause => clause.isFull
  | .nested _ clause => clause.isFull
  | _ => true

/-- Whether no combination anywhere in several clauses is empty. -/
def areFull : List (Query R) → Bool
  | [] => true
  | clause :: rest => clause.isFull && areFull rest

end

end TieredSearch.Query
