import TieredSearch.Context
import TieredSearch.Search.Dialogue

/-!
# Rows and totals

Reading the documents themselves, and counting them.
-/

namespace TieredSearch

variable {R : Type} [Scalar R]

/-- A request for rows. -/
structure RowRequest (R : Type) where
  /-- The caller's filter. -/
  filter : Option (Filter R)
  /-- The members that are returned; all when the list is empty. -/
  fields : List String
  /-- The sort order. -/
  sort : Json R
  /-- How many rows are skipped. -/
  offset : Nat
  /-- How many rows are returned; ten when nothing is said. -/
  size : Option Nat
  /-- A restriction that is always in force. -/
  scope : Option (Filter R)

namespace RowRequest

/-- The search for the rows. -/
def search (ctx : Context) (index : String) (req : RowRequest R) : Except QueryError (Search R) := do
  let query ← ctx.compileFilter index req.filter none true req.scope
  let sort ← ctx.compileSort index req.sort
  return ⟨index, query, .rows ⟨req.offset, req.size.getD 10, sort, req.fields⟩⟩

/-- The rows as they are read off an answer. -/
def readRows (answer : Json R) : Except QueryError (List (Json R)) :=
  match (answer.get? "hits").bind (·.get? "hits") |>.bind Json.items? with
  | some hits => .ok (hits.map fun hit => (hit.get? "_source").getD .null)
  | none => .error (.malformed .hits)

/-- The rows of an index. -/
def run (ctx : Context) (index : String) (req : RowRequest R) : Dialogue R (List (Json R)) :=
  (Dialogue.ofExcept (req.search ctx index)).bind fun search =>
    Dialogue.searchReading search readRows

end RowRequest

/-- The total as it is read off an answer, which may give it bare or as a member. -/
def readTotal (answer : Json R) : Except QueryError Int :=
  match (answer.get? "hits").bind (·.get? "total") with
  | none => .error (.malformed .total)
  | some total =>
    match ((total.get? "value").getD total).int? with
    | some n => .ok n
    | none => .error (.malformed .numericTotal)

/-- How many documents of an index pass a filter and a restriction. -/
def totalCount (ctx : Context) (index : String) (filter scope : Option (Filter R)) :
    Dialogue R Int :=
  (Dialogue.ofExcept (ctx.compileFilter index filter none true scope)).bind fun query =>
    Dialogue.searchReading ⟨index, query, .total⟩ readTotal

end TieredSearch
