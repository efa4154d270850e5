import TieredSearch.Store

/-!
# Aggregation sections

An aggregation section is an object that asks for results by name. A store reads off each request what to compute:
statistics, a histogram, a listing of terms, or a section of its own inside nested objects, which adds the number
of documents. A histogram may have a section too, which is run for each bin. Of a section with any other request
there is no result.
-/

namespace TieredSearch

variable {R : Type}

/-- The section that asks for one result inside nested scopes, the first path outermost. -/
def Breakdown.wrapRequest (nestedPath : List String) (name : String) (request : Json R) : List (String × Json R) :=
  nestedPath.foldr (fun path inner =>
    [(nestedScopeName, .obj [("nested", .obj [("path", .str path)]), ("aggs", .obj inner)])]) [(name, request)]

namespace Store

open Document (valuesAt)

/-! ### Requests -/

/-- A listing of terms that is asked for. -/
structure Listing (R : Type) where
  /-- The name of the source, under which the key of a bucket stands. -/
  source : String
  /-- The field. -/
  field : String
  /-- Whether documents without a value are counted, under null. -/
  missing : Bool
  /-- How many terms a page holds. -/
  size : Nat
  /-- The cursor that the page lies behind. -/
  after : Option (Json R)

/-- What a request asks to compute. -/
inductive Measure (R : Type) where
  /-- Statistics of a field. -/
  | stats (field : String)
  /-- Bins of equal width. -/
  | histogram (field : String) (width offset : R)
  /-- A page of terms. -/
  | terms (listing : Listing R)
  /-- The results of a section inside nested objects. -/
  | nested

/-- A listing as it is read off a request; only the first source counts. -/
def Listing.ofJson? (told : Json R) : Option (Listing R) := do
  let size ← (told.get? "size").bind Json.nat?
  let sources ← (told.get? "sources").bind Json.items?
  let (source, inner) ← (sources.head?.bind Json.members?).bind List.head?
  let terms ← inner.get? "terms"
  let field ← (terms.get? "field").bind Json.str?
  return {
    source := source
    field := field
    missing := ((terms.get? "missing_bucket").bind Json.bool?).getD false
    size := size
    after := told.get? "after" }

variable [Scalar R]

/-- What the members of a request ask to compute, if it is supported. The first kind of request that is named
decides. -/
def Measure.ofMembers? (request : List (String × Json R)) : Option (Measure R) :=
  match Json.lookup "stats" request with
  | some told => ((told.get? "field").bind Json.str?).map .stats
  | none =>
    match Json.lookup "histogram" request with
    | some told => do
      let field ← (told.get? "field").bind Json.str?
      let width ← (told.get? "interval").bind Json.number?
      return .histogram field width (((told.get? "offset").bind Json.number?).getD (Scalar.ofInt 0))
    | none =>
      match Json.lookup "composite" request with
      | some told => (Listing.ofJson? told).map .terms
      | none => (Json.lookup "nested" request).map fun _ => .nested

/-! ### Results -/

/-- The counts of a listing: documents without a value take no part unless they are asked for. -/
def Listing.counts (l : Listing R) (docs : List (Json R)) : List (Json R × Nat) :=
  termCounts (if l.missing then docs else docs.filter fun doc => !(valuesAt doc l.field).isEmpty) l.field

/-- The counts that lie behind the cursor of a listing. -/
def Listing.behind (l : Listing R) (docs : List (Json R)) : List (Json R × Nat) :=
  match l.after with
  | some cursor => (l.counts docs).filter fun (key, _) =>
      (compareValues key ((cursor.get? l.source).getD .null)).isGT
  | none => l.counts docs

/-- The page of a listing: its buckets, and the cursor behind them. -/
def Listing.page (l : Listing R) (docs : List (Json R)) : Json R :=
  let page := (l.behind docs).take l.size
  Json.object [
    ("buckets", some (.arr (page.map fun ((key, n) : Json R × Nat) =>
      .obj [("key", .obj [(l.source, key)]), ("doc_count", .int n)]))),
    ("after_key", page.getLast?.map fun (key, _) => .obj [(l.source, key)])]

/-- The bins from the lowest to the highest that holds a document, each with its documents. -/
def binned (docs : List (Json R)) (field : String) (width offset : R) : List (Int × List (Json R)) :=
  let placed := docs.map fun doc => (doc, binsOf field width offset doc)
  match placed.flatMap Prod.snd with
  | [] => []
  | k :: ks => (interval (ks.foldl min k) (ks.foldl max k)).map fun k =>
      (k, (placed.filter fun (_, bins) => bins.contains k).map Prod.fst)

mutual

/-- The results of a section, each under the name it is asked for by. -/
def resultsOf : List (String × Json R) → List (Json R) → Option (List (String × Json R))
  | [], _ => some []
  | (name, request) :: rest, docs => do
    let result ← requestResult request docs
    let results ← resultsOf rest docs
    return (name, result) :: results

/-- The result of a request. -/
def requestResult : Json R → List (Json R) → Option (Json R)
  | .obj request, docs =>
    match Measure.ofMembers? request with
    | some (.stats field) => some (statsOf docs field)
    | some (.histogram field width offset) => do
      let bins ← (binned docs field width offset).mapM fun (k, inside) => do
        let results ← innerResults request inside
        return .obj (Json.put "doc_count" (.int inside.length)
          (Json.put "key" (.ofReal (Scalar.ofInt k * width + offset)) results))
      return .obj [("buckets", .arr bins)]
    | some (.terms listing) => some (listing.page docs)
    | some .nested => do
      let results ← innerResults request docs
      return .obj (Json.put "doc_count" (.int docs.length) results)
    | none => none
  | _, _ => none

/-- The results of the section that is a member of a request; without one there are none. -/
def innerResults : List (String × Json R) → List (Json R) → Option (List (String × Json R))
  | [], _ => some []
  | (key, inner) :: rest, docs =>
    if key = "aggs" then
      match inner with
      | .obj requests => resultsOf requests docs
      | _ => some []
    else innerResults rest docs

end

end Store

end TieredSearch
