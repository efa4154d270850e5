import TieredSearch.Aggregation.Request
import TieredSearch.Search.Dialogue

/-!
# Statistics and histograms

A numeric aggregation is planned first: statistics over everything, or bins of a width that is
given or derived from the number of bins and the range the values lie in. The plan is then run;
running one plan under several restrictions gives bins that can be compared.
-/

namespace TieredSearch

variable {R : Type} [Scalar R]

/-- The name of overall statistics. -/
def statsName : String := "field_stats"

/-- The name of a histogram. -/
def histogramName : String := "field_histogram"

/-- The layout of a numeric aggregation. -/
inductive NumericPlan (R : Type) where
  /-- One bucket over everything. -/
  | stats
  /-- Bins of one width from a start, or from zero. -/
  | histogram (start : Option R) (step : R)
  /-- No bins: there is nothing in the range. -/
  | empty

namespace StatBucket

/-- Statistics as they are read off an answer. -/
def ofJson (stats : Json R) : Except QueryError (StatBucket R) :=
  let value (name : String) : Option R := (stats.get? name).bind Json.number?
  match (stats.get? "count").bind Json.int? with
  | none => .error (.malformed .statsCount)
  | some count => .ok {
      lower := value "min"
      upper := value "max"
      min := value "min"
      max := value "max"
      avg := value "avg"
      sum := if count = 0 then none else value "sum"
      count := count }

/-- One bin as it is read off an answer. -/
def ofBin (step : R) (bin : Json R) : Except QueryError (StatBucket R) :=
  match (bin.get? "key").bind Json.number? with
  | none => .error (.malformed .histogramKey)
  | some key =>
    match bin.get? binStatsName with
    | none => .error (.malformed .histogramStats)
    | some stats => do
      let bucket ← ofJson stats
      match (bin.get? "doc_count").bind Json.int? with
      | none => throw (.malformed .bucketCount)
      | some count =>
        return { bucket with lower := some key, upper := some (key + step), count := count }

/-- The bins one by one. -/
def ofBins (step : R) : List (Json R) → Except QueryError (List (StatBucket R))
  | [] => .ok []
  | bin :: rest => do
    let bucket ← ofBin step bin
    return bucket :: (← ofBins step rest)

end StatBucket

namespace AggregationRequest

/-- The clauses for the bounds of the values. -/
def bounds (field : String) (start stop : Option R) : List (Query R) :=
  (start.map fun x => .range field .gte (.ofReal x)).toList
    ++ (stop.map fun x => .range field .lt (.ofReal x)).toList

/-- The query of a numeric aggregation: the filters, and the bounds beside them. Inside nested
objects both bounds hold for the same element. -/
def boundedQuery (ctx : Context) (index : String) (req : AggregationRequest R) (field : Field)
    (start : Option R) : Except QueryError (Option (Query R)) := do
  let base ← ctx.compileFilter index req.filter (some req.field) req.filterSelf req.authFilter
  let bounds := bounds field.name start req.rangeEnd
  let clauses :=
    if field.nestedPath.isEmpty then bounds
    else ((Query.conjunction? bounds).map (Query.nestedIn field.nestedPath)).toList
  return Query.conjunction? (base.toList ++ clauses)

/-- The search for overall statistics, and the nested objects around the field. -/
def statsSearch (ctx : Context) (index : String) (req : AggregationRequest R) :
    Except QueryError (List String × Search R) := do
  req.validate
  let s ← ctx.schema index
  let field ← s.aggregatedNumeric req.field
  let query ← req.boundedQuery ctx index field req.rangeStart
  return (field.nestedPath,
    ⟨index, query, .breakdown (.wrap field.nestedPath statsName (.stats field.name))⟩)

/-- Statistics over everything in the range. The bucket is keyed by the bounds that are given,
and by the extremes where they are not. -/
def stats (ctx : Context) (index : String) (req : AggregationRequest R) :
    Dialogue R (StatBucket R) :=
  (Dialogue.ofExcept (req.statsSearch ctx index)).bind fun (path, search) =>
    Dialogue.searchReading search fun answer => do
      let bucket ← StatBucket.ofJson (← Breakdown.unwrap path statsName answer)
      return { bucket with
        lower := req.rangeStart.or bucket.min
        upper := req.rangeEnd.or bucket.max }

/-- The bins that divide the range of a bucket into `bins` equal parts. The range is closed above
by the greatest value plus one where no bound is given. -/
def derivedPlan (req : AggregationRequest R) (bins : Int) (overall : StatBucket R) :
    NumericPlan R :=
  match req.rangeStart.or overall.min,
      req.rangeEnd.or (overall.max.map (· + Scalar.ofInt 1)) with
  | some start, some stop =>
    let step := (stop - start) / Scalar.ofInt bins
    if Scalar.le step (Scalar.ofInt 0) then .empty else .histogram (some start) step
  | _, _ => .empty

/-- The layout of the aggregation. Only a number of bins takes a search to lay out. -/
def plan (ctx : Context) (index : String) (req : AggregationRequest R) :
    Dialogue R (NumericPlan R) :=
  (Dialogue.ofExcept req.validate).bind fun _ =>
    match req.rangeStep, req.binCount with
    | some step, _ => .done (.value (.histogram req.rangeStart step))
    | none, some bins =>
      (req.stats ctx index).bind fun overall => .done (.value (req.derivedPlan bins overall))
    | none, none => .done (.value .stats)

/-- The search for a histogram, and the nested objects around the field. -/
def histogramSearch (ctx : Context) (index : String) (req : AggregationRequest R)
    (start : Option R) (step : R) : Except QueryError (List String × Search R) := do
  let s ← ctx.schema index
  let field ← s.aggregatedNumeric req.field
  let query ← req.boundedQuery ctx index field start
  let metric := .histogram field.name step (start.map (Scalar.modulo · step))
  return (field.nestedPath,
    ⟨index, query, .breakdown (.wrap field.nestedPath histogramName metric)⟩)

/-- The bins from a start, or from zero, of a given width. -/
def histogram (ctx : Context) (index : String) (req : AggregationRequest R) (start : Option R)
    (step : R) : Dialogue R (List (StatBucket R)) :=
  (Dialogue.ofExcept (req.histogramSearch ctx index start step)).bind fun (path, search) =>
    Dialogue.searchReading search fun answer => do
      let result ← Breakdown.unwrap path histogramName answer
      match (result.get? "buckets").bind Json.items? with
      | some bins => StatBucket.ofBins step bins
      | none => throw (.malformed .histogramBuckets)

/-- The buckets of a layout. -/
def runPlan (ctx : Context) (index : String) (req : AggregationRequest R) :
    NumericPlan R → Dialogue R (List (StatBucket R))
  | .stats => (req.stats ctx index).bind fun bucket => .done (.value [bucket])
  | .histogram start step => req.histogram ctx index start step
  | .empty => .done (.value [])

/-- Statistics or a histogram of a field. -/
def numeric (ctx : Context) (index : String) (req : AggregationRequest R) :
    Dialogue R (List (StatBucket R)) :=
  (req.plan ctx index).bind (req.runPlan ctx index)

/-- A histogram with bins of a given width. -/
def histogramByStep (ctx : Context) (index : String) (req : AggregationRequest R) (step : R) :
    Dialogue R (List (StatBucket R)) :=
  { req with rangeStep := some step, binCount := none }.numeric ctx index

/-- A histogram with a given number of bins. -/
def histogramByCount (ctx : Context) (index : String) (req : AggregationRequest R) (bins : Int) :
    Dialogue R (List (StatBucket R)) :=
  { req with rangeStep := none, binCount := some bins }.numeric ctx index

end AggregationRequest

end TieredSearch
