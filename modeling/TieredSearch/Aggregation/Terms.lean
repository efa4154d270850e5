import TieredSearch.Aggregation.Request
import TieredSearch.Search.Dialogue
import TieredSearch.Sorting

/-!
# Counting terms

The values of a field are read page by page: every search after the first continues behind the
last key of the page before. Pages end with one that is not full or that names no last key. The
buckets are then put in order of descending count; documents without a value are counted under
the missing key, in a bucket of its own at the end.
-/

namespace TieredSearch

variable {R : Type} [Scalar R]

/-- The name of a listing of terms. -/
def termsName : String := "field_terms"

/-- An enumeration of the values of a field. -/
structure TermsRequest (R : Type) where
  /-- The field. -/
  field : String
  /-- The caller's filter. -/
  filter : Option (Filter R)
  /-- The field whose own leaves are left out. -/
  excludeField : Option String
  /-- Whether they count nevertheless. -/
  filterSelf : Bool
  /-- A restriction that is always in force. -/
  extra : Option (Filter R)
  /-- The key documents without a value are counted under; without one they are left out. -/
  missingKey : Option String

/-- What has been counted so far. -/
structure TermTally where
  /-- The buckets, in the order they were read. -/
  buckets : List TermBucket := []
  /-- The documents without a value, once there was one, as a number of 64 bits. -/
  missing : Option Int := none

namespace TermTally

/-- The term of a bucket; none where the documents have no value. -/
def termOf (bucket : Json R) : Option String :=
  match (bucket.get? "key").bind (·.get? termSourceName) with
  | none | some .null => none
  | some (.str s) => some s
  | some other => some other.compact

/-- Counts one bucket. -/
def count (missingKey : Option String) (tally : TermTally) (bucket : Json R) :
    Except QueryError TermTally :=
  match (bucket.get? "doc_count").bind Json.int? with
  | none => .error (.malformed .bucketCount)
  | some n =>
    let asMissing :=
      .ok { tally with missing := some (Number.wrapSigned (tally.missing.getD 0 + n)) }
    match termOf bucket, missingKey with
    | none, some _ => asMissing
    | none, none => .ok tally
    | some key, _ =>
      if missingKey = some key then asMissing
      else .ok { tally with buckets := tally.buckets ++ [⟨key, n⟩] }

/-- Counts the buckets of a page. -/
def countPage (missingKey : Option String) : TermTally → List (Json R) → Except QueryError TermTally
  | tally, [] => .ok tally
  | tally, bucket :: rest => do
    let tally ← tally.count missingKey bucket
    tally.countPage missingKey rest

/-- The buckets in the order of an answer. -/
def sorted (missingKey : Option String) (tally : TermTally) : List TermBucket :=
  let listed := Sorting.stable (fun a b => b.count < a.count) tally.buckets
  match tally.missing, missingKey with
  | some n, some key => listed ++ [⟨key, n⟩]
  | _, _ => listed

end TermTally

namespace TermsRequest

/-- What the pages of an enumeration have in common. -/
structure Plan (R : Type) where
  /-- The index. -/
  index : String
  /-- The field. -/
  field : Field
  /-- The query documents have to pass. -/
  query : Option (Query R)
  /-- How many terms a page holds. -/
  pageSize : Nat
  /-- The key documents without a value are counted under. -/
  missingKey : Option String

/-- The search for the page behind a cursor. -/
def Plan.search (plan : Plan R) (after : Option (Json R)) : Search R where
  index := plan.index
  query := plan.query
  purpose := .breakdown
    (.wrap plan.field.nestedPath termsName (.terms plan.field.name plan.pageSize after))

/-- A page as it is read off an answer: its buckets, and the cursor behind it if there is one. -/
def Plan.readPage (plan : Plan R) (answer : Json R) :
    Except QueryError (List (Json R) × Option (Json R)) := do
  let listing ← Breakdown.unwrap plan.field.nestedPath termsName answer
  match (listing.get? "buckets").bind Json.items? with
  | some buckets => return (buckets, (listing.get? "after_key").filter (!·.isNull))
  | none => throw (.malformed .termBuckets)

/-- Reads pages from a cursor on, at most as many as there is patience for. -/
def Plan.pages (plan : Plan R) : Nat → Option (Json R) → TermTally → Dialogue R TermTally
  | 0, _, _ => .done (.stuck none)
  | patience + 1, after, tally =>
    (Dialogue.searchReading (plan.search after) fun answer => do
      let (page, cursor) ← plan.readPage answer
      let tally ← tally.countPage plan.missingKey page
      return (tally, if page.length < plan.pageSize then none else cursor)).bind
    fun (tally, cursor) =>
      match cursor with
      | some next => plan.pages patience (some next) tally
      | none => .done (.value tally)

/-- Looks the field up and compiles the filters. -/
def plan (ctx : Context) (index : String) (req : TermsRequest R) : Except QueryError (Plan R) := do
  let s ← ctx.schema index
  let field ← s.aggregated req.field
  let query ← ctx.compileFilter index req.filter req.excludeField req.filterSelf req.extra
  return ⟨index, field, query, ctx.config.aggregation.pageSize, req.missingKey⟩

/-- All pages, and the buckets of the answer, without a time limit. -/
def enumerate (ctx : Context) (index : String) (req : TermsRequest R) :
    Dialogue R (List TermBucket) :=
  (Dialogue.ofExcept (req.plan ctx index)).bind fun plan =>
    (plan.pages ctx.patience none {}).bind fun tally =>
      .done (.value (tally.sorted req.missingKey))

/-- The terms of a field by descending count, the missing key last, within the time limit. -/
def run (ctx : Context) (index : String) (req : TermsRequest R) : Dialogue R (List TermBucket) :=
  (req.enumerate ctx index).bounded ctx.timeLimit (.enumerationTimedOut req.field)

end TermsRequest

/-- Term counts of a field. -/
def AggregationRequest.terms (ctx : Context) (index : String) (req : AggregationRequest R) :
    Dialogue R (List TermBucket) :=
  TermsRequest.run ctx index {
    field := req.field
    filter := req.filter
    excludeField := some req.field
    filterSelf := req.filterSelf
    extra := req.authFilter
    missingKey := ctx.missingAlias }

end TieredSearch
