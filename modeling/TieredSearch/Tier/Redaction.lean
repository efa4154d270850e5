import TieredSearch.Aggregation.Request

/-!
# Suppressing small counts

A count is suppressed when the documents out of the caller's scope contribute to it, but fewer
than the limit. The shadow of a result is the same computation over those documents alone.
-/

namespace TieredSearch

/-- What stands in place of a suppressed count. -/
def suppressedCount : Int := -1

/-- Which counts are suppressed. -/
structure Redaction where
  /-- The least number of documents that need not be hidden. -/
  limit : Int
  /-- Keys whose counts are never suppressed. -/
  whitelist : List String

namespace Redaction

/-- The rule a configuration lays down: the alias of missing values is never suppressed. -/
def ofConfig (c : Config) : Redaction where
  limit := c.tier.limit.getD 0
  whitelist := c.tier.whitelist ++ c.missingAlias.toList

/-- Whether a shadow count has to be hidden. -/
def suppresses (r : Redaction) (shadow : Int) : Bool := 0 < shadow && shadow < r.limit

/-- Whether the counts of a key are never suppressed. -/
def isWhitelisted (r : Redaction) (key : String) : Bool := r.whitelist.contains key

/-- A count under its shadow. -/
def count (r : Redaction) (count shadow : Int) : Int :=
  if r.suppresses shadow then suppressedCount else count

/-- The count of a key among buckets, the last one if it is repeated. -/
def countOf? (key : String) (buckets : List TermBucket) : Option Int :=
  (buckets.reverse.find? (·.key = key)).map (·.count)

/-- One bucket of terms under the shadow. -/
def term (r : Redaction) (shadow : List TermBucket) (bucket : TermBucket) : TermBucket :=
  if !r.isWhitelisted bucket.key && (countOf? bucket.key shadow).any r.suppresses then
    { bucket with count := suppressedCount }
  else bucket

/-- Buckets of terms under their shadow. -/
def terms (r : Redaction) (buckets shadow : List TermBucket) : List TermBucket :=
  buckets.map (r.term shadow)

variable {R : Type} [Scalar R]

/-- Whether two lower bounds are the same: both absent, or equal. -/
def sameBound : Option R → Option R → Bool
  | some x, some y => Scalar.eq x y
  | none, none => true
  | _, _ => false

/-- One bucket of statistics under the shadow bin with the same lower bound. -/
def stat (r : Redaction) (shadow : List (StatBucket R)) (bucket : StatBucket R) : StatBucket R :=
  match shadow.find? fun s => sameBound s.lower bucket.lower with
  | some s => { bucket with count := r.count bucket.count s.count }
  | none => bucket

/-- Buckets of statistics under their shadow. -/
def stats (r : Redaction) (buckets shadow : List (StatBucket R)) : List (StatBucket R) :=
  buckets.map (r.stat shadow)

end Redaction

end TieredSearch
