import TieredSearch.Context

/-!
# Aggregation requests

What an aggregation is asked for, and the buckets it answers with.
-/

namespace TieredSearch

/-- A request to aggregate one field. -/
structure AggregationRequest (R : Type) where
  /-- The field. -/
  field : String
  /-- The caller's filter. -/
  filter : Option (Filter R)
  /-- Whether the filter's own leaves on the field count. -/
  filterSelf : Bool
  /-- Documents without a value from it on are left out. -/
  rangeStart : Option R
  /-- Documents without a value before it are left out. -/
  rangeEnd : Option R
  /-- The width of the bins. -/
  rangeStep : Option R
  /-- The number of bins. -/
  binCount : Option Int
  /-- A restriction that is always in force. -/
  authFilter : Option (Filter R)

/-- One term and how many documents hold it. -/
structure TermBucket where
  /-- The term. -/
  key : String
  /-- The number of documents. -/
  count : Int
  deriving DecidableEq, Repr

/-- Statistics over a range of values, or over all. -/
structure StatBucket (R : Type) where
  /-- The lower end of the range. -/
  lower : Option R
  /-- The upper end of the range. -/
  upper : Option R
  /-- The least value. -/
  min : Option R
  /-- The greatest value. -/
  max : Option R
  /-- The mean. -/
  avg : Option R
  /-- The sum; absent when there is no value. -/
  sum : Option R
  /-- The number of values, or of documents in a bin. -/
  count : Int

variable {R : Type} [Scalar R]

/-- A bucket of terms in an answer. -/
def TermBucket.toJson (b : TermBucket) : Json R :=
  .obj [("key", .str b.key), ("count", .int b.count)]

/-- A bucket of statistics in an answer. -/
def StatBucket.toJson (b : StatBucket R) : Json R :=
  .obj [
    ("key", .arr [.ofReal? b.lower, .ofReal? b.upper]),
    ("min", .ofReal? b.min), ("max", .ofReal? b.max), ("avg", .ofReal? b.avg),
    ("sum", .ofReal? b.sum), ("count", .int b.count)]

namespace AggregationRequest

/-- Refuses arguments that contradict each other. -/
def validate (req : AggregationRequest R) : Except QueryError Unit := do
  if req.rangeStep.isSome && req.binCount.isSome then
    throw (.invalidAggregation .stepAndBins)
  match req.rangeStep with
  | some step =>
    if !Scalar.lt (Scalar.ofInt 0) step then
      throw (.invalidAggregation (.stepNotPositive (Scalar.plain step)))
  | none => pure ()
  match req.binCount with
  | some bins => if bins ≤ 0 then throw (.invalidAggregation (.binsNotPositive bins))
  | none => pure ()
  match req.rangeStart, req.rangeEnd with
  | some start, some stop =>
    if Scalar.lt stop start then
      throw (.invalidAggregation (.boundsReversed (Scalar.plain start) (Scalar.plain stop)))
  | _, _ => pure ()

/-- The request under a further restriction. -/
def restricted (req : AggregationRequest R) (scope : Option (Filter R)) : AggregationRequest R :=
  { req with authFilter := Filter.both req.authFilter scope }

end AggregationRequest

/-- A field as an aggregation looks it up. -/
def Schema.aggregated (s : Schema) (name : String) : Except QueryError Field :=
  match s.field? name with
  | some f => .ok f
  | none => .error (.invalidAggregation (.unknownField name s.index))

/-- A field as an aggregation of numbers looks it up. -/
def Schema.aggregatedNumeric (s : Schema) (name : String) : Except QueryError Field := do
  let f ← s.aggregated name
  match f.kind with
  | .numeric => return f
  | .text => throw (.invalidAggregation (.textField f.name))

end TieredSearch
