import TieredSearch.Query.Basic
import TieredSearch.Sort

/-!
# Search requests

A search asks one index for rows, for a total or for a breakdown of the documents that pass its
query. `Search.body` is the JSON it is sent as.
-/

namespace TieredSearch

variable {R : Type}

/-- The name of a nested scope in a breakdown. -/
def nestedScopeName : String := "nested_scope"

/-- The name of the statistics of one bin. -/
def binStatsName : String := "bin_stats"

/-- The name of the one source of a listing of terms. -/
def termSourceName : String := "term"

/-- What is computed over the documents of a breakdown. -/
inductive Metric (R : Type) where
  /-- Count, extremes, mean and sum of a field. -/
  | stats (field : String)
  /-- Bins of equal width, with statistics of each. -/
  | histogram (field : String) (interval : R) (offset : Option R)
  /-- One page of the values of a field and how many documents hold each. -/
  | terms (field : String) (pageSize : Nat) (after : Option (Json R))

/-- A metric inside the nested scopes around its field. -/
inductive Breakdown (R : Type) where
  /-- The metric under its name. -/
  | named (name : String) (metric : Metric R)
  /-- A breakdown inside nested objects. -/
  | nested (path : String) (inner : Breakdown R)

/-- Which rows are returned, and what of them. -/
structure RowPage where
  /-- How many rows are skipped. -/
  offset : Nat
  /-- How many rows are returned. -/
  size : Nat
  /-- The order of the rows. -/
  sort : Option (List SortClause)
  /-- The members that are returned; all when the list is empty. -/
  fields : List String

/-- What a search asks for. -/
inductive Purpose (R : Type) where
  /-- Rows. -/
  | rows (page : RowPage)
  /-- How many documents there are. -/
  | total
  /-- A breakdown. -/
  | breakdown (b : Breakdown R)

/-- One request to the search backend. -/
structure Search (R : Type) where
  /-- The index. -/
  index : String
  /-- The query documents have to pass. -/
  query : Option (Query R)
  /-- What is asked for. -/
  purpose : Purpose R

/-! ### As JSON -/

variable [Scalar R]

/-- The JSON of a metric. -/
def Metric.toJson : Metric R → Json R
  | .stats field => .obj [("stats", .obj [("field", .str field)])]
  | .histogram field interval offset =>
    .obj [
      ("histogram", Json.object [
        ("field", some (.str field)),
        ("interval", some (.ofReal interval)),
        ("offset", offset.map .ofReal)]),
      ("aggs", .obj [(binStatsName, .obj [("stats", .obj [("field", .str field)])])])]
  | .terms field pageSize after =>
    .obj [("composite", Json.object [
      ("size", some (.int pageSize)),
      ("sources", some (.arr [.obj [(termSourceName, .obj [("terms",
        .obj [("field", .str field), ("missing_bucket", .bool true)])])]])),
      ("after", after)])]

namespace Breakdown

/-- A metric inside nested scopes, the first path outermost. -/
def wrap (nestedPath : List String) (name : String) (metric : Metric R) : Breakdown R :=
  nestedPath.foldr .nested (.named name metric)

/-- The JSON of a breakdown: the members of an aggregation section. -/
def toMembers : Breakdown R → List (String × Json R)
  | .named name metric => [(name, metric.toJson)]
  | .nested path inner =>
    [(nestedScopeName,
      .obj [("nested", .obj [("path", .str path)]), ("aggs", .obj inner.toMembers)])]

/-- The result of the metric `name` below the given number of nested scopes. -/
def descend (name : String) : Nat → Json R → Except QueryError (Json R)
  | 0, part =>
    match part.get? name with
    | some result => .ok result
    | none => .error (.malformed (.aggregation name))
  | depth + 1, part =>
    match part.get? nestedScopeName with
    | some inner => descend name depth inner
    | none => .error (.malformed .nestedScope)

/-- Reads the result of a wrapped metric off an answer. -/
def unwrap (nestedPath : List String) (name : String) (answer : Json R) :
    Except QueryError (Json R) :=
  match answer.get? "aggregations" with
  | some part => descend name nestedPath.length part
  | none => .error (.malformed .aggregations)

end Breakdown

/-- The JSON a search is sent as. -/
def Search.body (s : Search R) : Json R :=
  let query := ("query", s.query.map Query.toJson)
  match s.purpose with
  | .rows page => Json.object [
      ("from", some (.int page.offset)),
      ("size", some (.int page.size)),
      query,
      ("sort", page.sort.map fun clauses => .arr (clauses.map SortClause.toJson)),
      ("_source", if page.fields.isEmpty then none else some (Json.texts page.fields))]
  | .total => Json.object [
      ("size", some (.int 0)), ("track_total_hits", some (.bool true)), query]
  | .breakdown b => Json.object [("size", some (.int 0)), ("aggs", some (.obj b.toMembers)), query]

end TieredSearch
