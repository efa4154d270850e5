import TieredSearch.Filter.Compile
import TieredSearch.Schema.Registry
import TieredSearch.Sort

/-!
# The context of a query

Every operation is given the configuration and the schemas that have been read. Only configured
indices can be queried, and only once their mapping is loaded.
-/

namespace TieredSearch

/-- What every operation works with. -/
structure Context where
  /-- The configuration of the site. -/
  config : Config
  /-- The schemas that have been read. -/
  registry : Registry
  /-- How many pages one enumeration reads before its time limit elapses. -/
  patience : Nat

namespace Context

variable {R : Type} [Scalar R]

/-- The schema of an index. -/
def schema (ctx : Context) (index : String) : Except QueryError Schema :=
  if (ctx.config.index? index).isNone then .error (.invalidFilter (.unknownIndex index))
  else
    match ctx.registry.get? index with
    | some s => .ok s
    | none => .error (.internal (.mappingNotLoaded index))

/-- The key that stands for missing values, when they are reported. -/
def missingAlias (ctx : Context) : Option String := ctx.config.missingAlias

/-- The time limit of one aggregation, in seconds. -/
def timeLimit (ctx : Context) : Nat := ctx.config.aggregation.timeoutSeconds

/-- What a filter on an index is compiled against. -/
def target (ctx : Context) (index : String) : Except QueryError Filter.Target := do
  let s ← ctx.schema index
  return ⟨s, ctx.missingAlias, ctx.config.aggregation.analyzedSuffix⟩

/-- Compiles a filter and a restriction for an index. -/
def compileFilter (ctx : Context) (index : String) (user : Option (Filter R))
    (excludeField : Option String) (filterSelf : Bool) (extra : Option (Filter R)) :
    Except QueryError (Option (Query R)) := do
  let t ← ctx.target index
  Filter.compile t user excludeField filterSelf extra

/-- Compiles a sort order for an index. -/
def compileSort (ctx : Context) (index : String) (order : Json R) :
    Except QueryError (Option (List SortClause)) := do
  let s ← ctx.schema index
  SortClause.ofJson s order

end Context

end TieredSearch
