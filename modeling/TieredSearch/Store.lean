import TieredSearch.Query.Matching
import TieredSearch.Search.Dialogue
import TieredSearch.Sorting

/-!
# A store of documents

A store answers searches from lists of documents, the way a search cluster does: documents that
match the query, sorted and paged rows, statistics, histograms without gaps, and pages of the
values of a field in ascending order.
-/

namespace TieredSearch

variable {R : Type}

/-- Documents by index, in the order they were added. -/
structure Store (R : Type) where
  /-- The documents of each index, each index once. -/
  indices : List (String × List (Json R)) := []

namespace Store

open Document (valuesAt numbersAt)

/-- The documents of an index. -/
def documents (st : Store R) (index : String) : List (Json R) :=
  match st.indices.find? (·.1 = index) with
  | some (_, docs) => docs
  | none => []

/-- Adds documents to an index. -/
def add (st : Store R) (index : String) (docs : List (Json R)) : Store R where
  indices := (index, st.documents index ++ docs) :: st.indices.filter (·.1 ≠ index)

/-- How many values the documents of all indices hold: no enumeration reads more pages. -/
def size (st : Store R) : Nat :=
  st.indices.foldr (fun entry total => Json.sizeItems entry.2 + total) 0

variable [Scalar R]

/-! ### Order of values -/

/-- The place of a value's type in the order of all values. -/
def rank : Json R → Nat
  | .null => 0
  | .int _ | .real _ => 1
  | .bool _ => 2
  | .str _ | .arr _ | .obj _ => 3

/-- The order of values: null, numbers, truth values, texts. -/
def compareValues (a b : Json R) : Ordering :=
  match a.number?, b.number? with
  | some x, some y => if Scalar.lt x y then .lt else if Scalar.lt y x then .gt else .eq
  | _, _ =>
    match a, b with
    | .str s, .str t => compare s t
    | .bool p, .bool q => compare p q
    | _, _ => compare (rank a) (rank b)

/-! ### Rows -/

/-- What a document is sorted by: its first value of the field, or null. -/
def sortKey (field : String) (doc : Json R) : Json R := (valuesAt doc field).headD .null

/-- Documents in the order of one clause. -/
def sortBy (docs : List (Json R)) (clause : SortClause) : List (Json R) :=
  Sorting.stable (fun a b =>
    let order := compareValues (sortKey clause.field a) (sortKey clause.field b)
    match clause.direction with
    | .asc => order.isLT
    | .desc => order.isGT) docs

/-- Documents in the order of several clauses, the first one deciding first. -/
def sortAll (docs : List (Json R)) (clauses : List SortClause) : List (Json R) :=
  clauses.reverse.foldl sortBy docs

/-- A document with the listed members only; all of it when nothing is listed. -/
def project (fields : List String) : Json R → Json R
  | .obj members =>
    if fields.isEmpty then .obj members else .obj (members.filter fun (k, _) => fields.contains k)
  | doc => doc

/-- The rows of a page. -/
def rows (docs : List (Json R)) (page : RowPage) : List (Json R) :=
  ((sortAll docs (page.sort.getD [])).drop page.offset |>.take page.size).map fun doc =>
    .obj [("_source", project page.fields doc)]

/-! ### Statistics -/

/-- Statistics of a field. -/
def statsOf (docs : List (Json R)) (field : String) : Json R :=
  match docs.flatMap (numbersAt · field) with
  | [] => .obj [
      ("count", .int 0), ("min", .null), ("max", .null), ("avg", .null),
      ("sum", .real (Scalar.ofInt 0))]
  | x :: xs =>
    let sum := xs.foldl (· + ·) x
    .obj [
      ("count", .int (xs.length + 1 : Nat)),
      ("min", .ofReal (xs.foldl Scalar.least x)),
      ("max", .ofReal (xs.foldl Scalar.greatest x)),
      ("avg", .ofReal (sum / Scalar.ofInt (xs.length + 1 : Nat))),
      ("sum", .ofReal sum)]

/-! ### Histograms -/

/-- The bin of a number. -/
def binOf (interval offset x : R) : Int := Scalar.floor ((x - offset) / interval)

/-- The bins a document falls into. -/
def binsOf (field : String) (interval offset : R) (doc : Json R) : List Int :=
  (numbersAt doc field).map (binOf interval offset)

/-- The whole numbers from `low` to `high`. -/
def interval (low high : Int) : List Int :=
  (List.range (high - low + 1).toNat).map fun (i : Nat) => low + i

/-- One bin with the documents that fall into it. -/
def bin (field : String) (width offset : R) (docs : List (Json R × List Int)) (k : Int) : Json R :=
  let inside := (docs.filter fun (_, bins) => bins.contains k).map Prod.fst
  .obj [
    (binStatsName, statsOf inside field),
    ("key", .ofReal (Scalar.ofInt k * width + offset)),
    ("doc_count", .int inside.length)]

/-- All bins from the lowest to the highest that holds a document. -/
def histogramOf (docs : List (Json R)) (field : String) (width offset : R) : Json R :=
  let placed := docs.map fun doc => (doc, binsOf field width offset doc)
  match placed.flatMap Prod.snd with
  | [] => .obj [("buckets", .arr [])]
  | k :: ks =>
    .obj [("buckets", .arr ((interval (ks.foldl min k) (ks.foldl max k)).map
      (bin field width offset placed)))]

/-! ### Terms -/

/-- What follows a value, without the values that equal the one kept before them. -/
def withoutRepeatsOf : Json R → List (Json R) → List (Json R)
  | _, [] => []
  | v, w :: rest => if v.same w then withoutRepeatsOf v rest else w :: withoutRepeatsOf w rest

/-- A list without the values that equal the one before them. -/
def withoutRepeats : List (Json R) → List (Json R)
  | [] => []
  | v :: rest => v :: withoutRepeatsOf v rest

/-- The keys a document is counted under: its values, or null when it has none. -/
def termKeys (field : String) (doc : Json R) : List (Json R) :=
  match withoutRepeats (valuesAt doc field) with
  | [] => [.null]
  | keys => keys

/-- Counts one more document under a key. -/
def countKey (counts : List (Json R × Nat)) (key : Json R) : List (Json R × Nat) :=
  match counts with
  | [] => [(key, 1)]
  | (k, n) :: rest => if k.same key then (k, n + 1) :: rest else (k, n) :: countKey rest key

/-- Every key with the number of documents counted under it, in ascending order. -/
def termCounts (docs : List (Json R)) (field : String) : List (Json R × Nat) :=
  Sorting.stable (fun a b => (compareValues a.1 b.1).isLT)
    ((docs.flatMap (termKeys field)).foldl countKey [])

/-- The counts of a page: at most `size` keys behind the cursor. -/
def termPage (counts : List (Json R × Nat)) (size : Nat) (after : Option (Json R)) :
    List (Json R × Nat) :=
  match after with
  | some cursor =>
    let last := (cursor.get? termSourceName).getD .null
    (counts.filter fun count => (compareValues count.1 last).isGT).take size
  | none => counts.take size

/-- The answer for a page. -/
def termsOf (docs : List (Json R)) (field : String) (size : Nat) (after : Option (Json R)) :
    Json R :=
  let page := termPage (termCounts docs field) size after
  Json.object [
    ("buckets", some (.arr (page.map fun (k, n) =>
      .obj [("key", .obj [(termSourceName, k)]), ("doc_count", .int n)]))),
    ("after_key", page.getLast?.map fun (k, _) => .obj [(termSourceName, k)])]

/-! ### Answers -/

/-- The result of a metric. An offset that is no number counts as zero. -/
def resultOf (docs : List (Json R)) : Metric R → Json R
  | .stats field => statsOf docs field
  | .histogram field width offset =>
    histogramOf docs field width ((offset.filter Scalar.isFinite).getD (Scalar.ofInt 0))
  | .terms field size after => termsOf docs field size after

/-- The members of an aggregation section. Nested scopes add the number of documents. -/
def breakdownOf (docs : List (Json R)) : Breakdown R → List (String × Json R)
  | .named name metric => [(name, resultOf docs metric)]
  | .nested _ inner =>
    [(nestedScopeName, .obj (Json.put "doc_count" (.int docs.length) (breakdownOf docs inner)))]

/-- The documents of an index that pass a query. -/
def selected (st : Store R) (index : String) (query : Option (Query R)) : List (Json R) :=
  (st.documents index).filter (Query.admits query)

/-- The answer to a search. -/
def answer (st : Store R) (s : Search R) : Json R :=
  let docs := st.selected s.index s.query
  let page := match s.purpose with
    | .rows page => rows docs page
    | _ => []
  let hits := ("hits", some (.obj [
    ("total", .obj [("value", .int docs.length), ("relation", .str "eq")]), ("hits", .arr page)]))
  match s.purpose with
  | .breakdown b => Json.object [hits, ("aggregations", some (.obj (breakdownOf docs b)))]
  | _ => Json.object [hits]

end Store

end TieredSearch
