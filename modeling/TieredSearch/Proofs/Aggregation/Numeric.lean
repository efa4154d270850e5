import TieredSearch.Aggregation.Numeric
import TieredSearch.Proofs.Aggregation.Listing

/-!
# Statistics and histograms on a store

What a numeric aggregation reads off the answers of a store. Overall statistics count the numbers in
the range (`AggregationRequest.exists_count_of_stats_onStore`). Every bin of a histogram is read off
a bin of the store (`AggregationRequest.exists_bin_of_histogram_onStore`), whose number alone makes
its lower bound.
-/

namespace TieredSearch

open Document (valuesAt numbersAt narrowings)

variable {R : Type} [Scalar R]

/-- A number that is read is the finite one that was written. -/
theorem Json.eq_of_number?_ofReal {x y : R} (read : (Json.ofReal x).number? = some y) :
    y = x ∧ Scalar.isFinite x = true := by
  rw [Json.ofReal] at read
  split at read
  next finite =>
    cases read
    exact ⟨rfl, finite⟩
  next => cases read

/-- The bins of a store are numbered without a gap, from the least number that a document falls into to the greatest
one. There are none where no document falls into any. -/
theorem Store.exists_numbers_of_histogramOf (docs : List (Json R)) (field : String) (width offset : R) :
    ∃ numbers : List Int, ((Store.histogramOf docs field width offset).get? "buckets").bind Json.items? =
        some (numbers.map
          (Store.bin field width offset (docs.map fun doc => (doc, Store.binsOf field width offset doc)))) ∧
      (docs.flatMap (Store.binsOf field width offset) = [] ∧ numbers = [] ∨
        ∃ low high, numbers = Store.interval low high ∧
          low ∈ docs.flatMap (Store.binsOf field width offset) ∧
          high ∈ docs.flatMap (Store.binsOf field width offset) ∧
          ∀ k ∈ docs.flatMap (Store.binsOf field width offset), low ≤ k ∧ k ≤ high) := by
  have filled : (docs.map fun doc => (doc, Store.binsOf field width offset doc)).flatMap Prod.snd =
      docs.flatMap (Store.binsOf field width offset) := List.flatMap_map ..
  rw [Store.histogramOf]
  split
  next none => exact ⟨[], rfl, .inl ⟨filled.symm.trans none, rfl⟩⟩
  next k ks found =>
    have least : (k :: ks).min? = some (ks.foldl min k) := List.min?_cons'
    have greatest : (k :: ks).max? = some (ks.foldl max k) := List.max?_cons'
    rw [List.min?_eq_some_iff] at least
    rw [List.max?_eq_some_iff] at greatest
    rw [← found, filled] at least greatest
    exact ⟨_, rfl, .inr ⟨_, _, rfl, least.1, greatest.1, fun k hk => ⟨least.2 k hk, greatest.2 k hk⟩⟩⟩

/-- The bins of a store, each with its number. -/
theorem Store.exists_bins_of_histogramOf (docs : List (Json R)) (field : String)
    (width offset : R) :
    ∃ placed bins, ((Store.histogramOf docs field width offset).get? "buckets").bind Json.items? =
      some bins ∧
      ∀ bin ∈ bins, ∃ k, bin = Store.bin field width offset placed k := by
  obtain ⟨numbers, written, -⟩ := Store.exists_numbers_of_histogramOf docs field width offset
  refine ⟨docs.map fun doc => (doc, Store.binsOf field width offset doc), _, written, fun bin mem => ?_⟩
  obtain ⟨number, -, rfl⟩ := List.mem_map.mp mem
  exact ⟨number, rfl⟩

namespace StatBucket

/-! ### Reading -/

/-- The count of a bucket stands in what it is read off. -/
theorem get?_count_of_ofJson {stats : Json R} {b : StatBucket R} (read : ofJson stats = .ok b) :
    (stats.get? "count").bind Json.int? = some b.count := by
  unfold ofJson at read
  split at read
  · cases read
  next counted =>
    cases read
    exact counted

/-- Statistics of a store count the numbers. -/
theorem count_of_ofJson {docs : List (Json R)} {field : String} {b : StatBucket R}
    (read : ofJson (Store.statsOf docs field) = .ok b) :
    b.count = ((docs.flatMap (numbersAt · field)).length : Nat) := by
  have counted := get?_count_of_ofJson read
  obtain ⟨n, length, written⟩ : ∃ n : Nat, n = (docs.flatMap (numbersAt · field)).length ∧
      (Store.statsOf docs field).get? "count" = some (.int n) := by
    rw [Store.statsOf]
    split
    next none => exact ⟨0, by rw [none]; rfl, rfl⟩
    next x xs some => exact ⟨xs.length + 1, by rw [some]; rfl, rfl⟩
  rw [written, Option.bind_some] at counted
  rw [Json.eq_of_int?_int counted, length]

/-- The least of the statistics of a store is a finite number, if it can be read. -/
theorem isFinite_of_min {docs : List (Json R)} {field : String} {b : StatBucket R}
    (read : ofJson (Store.statsOf docs field) = .ok b) {x : R} (least : b.min = some x) :
    Scalar.isFinite x = true := by
  unfold ofJson at read
  split at read
  · cases read
  cases read
  rw [Store.statsOf] at least
  split at least
  next => cases least
  next y ys _ =>
    obtain ⟨same, finite⟩ := Json.eq_of_number?_ofReal (x := ys.foldl Scalar.least y) least
    rw [same]
    exact finite

/-- A bin that is read off a bin of a store has the lower bound that its number makes, which is
finite, and counts documents. -/
theorem bound_of_ofBin {field : String} {width offset : R} {placed : List (Json R × List Int)}
    {k : Int}
    {b : StatBucket R} (read : ofBin width (Store.bin field width offset placed k) = .ok b) :
    b.lower = some (Scalar.ofInt k * width + offset) ∧ 0 ≤ b.count ∧
      Scalar.isFinite (Scalar.ofInt k * width + offset) = true := by
  have key : (Store.bin field width offset placed k).get? "key" =
      some (.ofReal (Scalar.ofInt k * width + offset)) := rfl
  obtain ⟨inside, stats⟩ : ∃ inside, (Store.bin field width offset placed k).get? binStatsName =
      some (Store.statsOf inside field) := ⟨_, rfl⟩
  obtain ⟨n, documents⟩ : ∃ n : Nat, (Store.bin field width offset placed k).get? "doc_count" =
      some (.int n) := ⟨_, rfl⟩
  rw [ofBin, key, stats, documents, Option.bind_some, Option.bind_some] at read
  split at read
  · cases read
  next x bound =>
    obtain ⟨rfl, finite⟩ := Json.eq_of_number?_ofReal bound
    obtain ⟨bucket, -, read⟩ := bind_eq_ok_iff.mp read
    split at read
    · cases read
    next m counted =>
      cases read
      refine ⟨rfl, ?_, finite⟩
      rw [Json.eq_of_int?_int counted]
      exact Int.natCast_nonneg n

/-- Bins are read off one by one. -/
theorem exists_of_mem_ofBins {step : R} {bins : List (Json R)} {buckets : List (StatBucket R)}
    (read : ofBins step bins = .ok buckets) {b : StatBucket R} (h : b ∈ buckets) :
    ∃ bin ∈ bins, ofBin step bin = .ok b := by
  induction bins generalizing buckets with
  | nil =>
    cases read
    cases h
  | cons bin bins ih =>
    obtain ⟨first, readFirst, read⟩ := bind_eq_ok_iff.mp read
    obtain ⟨rest, readRest, same⟩ := bind_eq_ok_iff.mp read
    cases same
    rcases List.mem_cons.mp h with rfl | h
    · exact ⟨bin, List.mem_cons_self, readFirst⟩
    · obtain ⟨bin', mem, readBin⟩ := ih readRest h
      exact ⟨bin', List.mem_cons_of_mem _ mem, readBin⟩

end StatBucket

/-! ### Searches -/

namespace Field

/-- The clauses for the bounds of the values of a field. Inside nested objects both bounds hold for
the same element. -/
def boundClauses (field : Field) (start stop : Option R) : List (Query R) :=
  let bounds := AggregationRequest.bounds field.name start stop
  if field.nestedPath.isEmpty then bounds
  else ((Query.conjunction? bounds).map (Query.nestedIn field.nestedPath)).toList

/-- The search for the bins of a field, from a start, or from zero, of a given width, over what
passes a clause and lies between the bounds. -/
def binSearch (index : String) (field : Field) (base : Option (Query R)) (start stop : Option R)
    (step : R) : Search R :=
  ⟨index, Query.conjunction? (base.toList ++ field.boundClauses start stop),
    .breakdown (.wrap field.nestedPath histogramName
      (.histogram field.name step (start.map (Scalar.modulo · step))))⟩

end Field

namespace AggregationRequest

variable {ctx : Context} {index : String} {req : AggregationRequest R} {st : Store R}

/-- A search for overall statistics asks for those of a field under the bounds of the request. -/
theorem exists_of_statsSearch {found : List String × Search R}
    (searched : req.statsSearch ctx index = .ok found) :
    ∃ field query, req.boundedQuery ctx index field req.rangeStart = .ok query ∧
      found = (field.nestedPath,
        ⟨index, query, .breakdown (.wrap field.nestedPath statsName (.stats field.name))⟩) := by
  obtain ⟨-, -, searched⟩ := bind_eq_ok_iff.mp searched
  obtain ⟨s, -, searched⟩ := bind_eq_ok_iff.mp searched
  obtain ⟨field, -, searched⟩ := bind_eq_ok_iff.mp searched
  obtain ⟨query, queried, same⟩ := bind_eq_ok_iff.mp searched
  cases same
  exact ⟨field, query, queried, rfl⟩

/-- A search for a histogram asks for that of a field under the bounds of the layout. -/
theorem exists_of_histogramSearch {start : Option R} {step : R} {found : List String × Search R}
    (searched : req.histogramSearch ctx index start step = .ok found) :
    ∃ field query, req.boundedQuery ctx index field start = .ok query ∧
      found = (field.nestedPath, ⟨index, query, .breakdown (.wrap field.nestedPath histogramName
        (.histogram field.name step (start.map (Scalar.modulo · step))))⟩) := by
  obtain ⟨s, -, searched⟩ := bind_eq_ok_iff.mp searched
  obtain ⟨field, -, searched⟩ := bind_eq_ok_iff.mp searched
  obtain ⟨query, queried, same⟩ := bind_eq_ok_iff.mp searched
  cases same
  exact ⟨field, query, queried, rfl⟩

/-- It asks so wherever the field is known and the filters compile. -/
theorem histogramSearch_eq_ok_iff {start : Option R} {step : R} {found : List String × Search R} :
    req.histogramSearch ctx index start step = .ok found ↔ ∃ s field base,
      ctx.schema index = .ok s ∧ s.aggregatedNumeric req.field = .ok field ∧
      ctx.compileFilter index req.filter (some req.field) req.filterSelf req.authFilter = .ok base ∧
      found = (field.nestedPath, field.binSearch index base start req.rangeEnd step) := by
  rw [histogramSearch]
  simp only [boundedQuery, bind_eq_ok_iff, pure, Except.pure, Except.ok.injEq]
  constructor
  · rintro ⟨s, known, field, numeric, _, ⟨base, compiled, rfl⟩, rfl⟩
    exact ⟨s, field, base, known, numeric, compiled, rfl⟩
  · rintro ⟨s, field, base, known, numeric, compiled, rfl⟩
    exact ⟨s, known, field, numeric, _, ⟨base, compiled, rfl⟩, rfl⟩

/-! ### Statistics -/

/-- A lower bound that no numeral stands for lets nothing through. -/
theorem isFinite_of_boundedQuery {field : Field} {start : Option R} {query : Option (Query R)}
    (queried : req.boundedQuery ctx index field start = .ok query) {doc : Json R}
    (admitted : Query.admits query doc = true) {x : R} (given : start = some x) :
    Scalar.isFinite x = true := by
  have within {view : Json R} (passed : (bounds field.name start req.rangeEnd).all (·.selects view) = true) :
      Scalar.isFinite x = true := by
    subst given
    have first : (Query.range field.name .gte (.ofReal x)).selects view = true :=
      List.all_eq_true.mp passed _ List.mem_cons_self
    rw [Query.selects, Json.ofReal] at first
    split_ifs at first with finite
    · exact finite
    · cases first
  obtain ⟨base, -, same⟩ := bind_eq_ok_iff.mp queried
  cases same
  rw [Query.admits_beside, Bool.and_eq_true] at admitted
  obtain ⟨-, passed⟩ := admitted
  split_ifs at passed with root
  · exact within passed
  · -- inside nested objects, one of the views passes both bounds
    have some : Query.conjunction? (bounds field.name start req.rangeEnd) ≠ none := by
      subst given
      cases req.rangeEnd <;> exact Option.some_ne_none _
    obtain ⟨q, joined⟩ := Option.ne_none_iff_exists'.mp some
    rw [joined, Option.map_some, Option.toList_some, List.all_cons, List.all_nil, Bool.and_true,
      Query.selects_nestedIn, List.any_eq_true] at passed
    obtain ⟨view, -, passed⟩ := passed
    have passed : (bounds field.name start req.rangeEnd).all (·.selects view) = true := by
      rw [← Query.admits_conjunction?, joined]
      exact passed
    exact within passed

/-- Overall statistics are read off those of the store, between the bounds that are given. -/
theorem exists_statsOf_of_stats_onStore {b : StatBucket R}
    (h : (req.stats ctx index).onStore st = .value b) :
    ∃ field query bucket, req.boundedQuery ctx index field req.rangeStart = .ok query ∧
      StatBucket.ofJson (Store.statsOf (st.selected index query) field.name) = .ok bucket ∧
      b = { bucket with
        lower := req.rangeStart.or bucket.min
        upper := req.rangeEnd.or bucket.max } := by
  rw [stats, Dialogue.onStore_bind, Outcome.bind_eq_value_iff] at h
  obtain ⟨⟨path, search⟩, searched, read⟩ := h
  rw [Dialogue.onStore_ofExcept, Outcome.ofExcept_eq_value_iff] at searched
  obtain ⟨field, query, queried, same⟩ := exists_of_statsSearch searched
  cases same
  rw [Dialogue.onStore_searchReading, Outcome.ofExcept_eq_value_iff,
    Breakdown.unwrap_answer (by decide)] at read
  obtain ⟨result, same, read⟩ := bind_eq_ok_iff.mp read
  cases same
  obtain ⟨bucket, counted, same⟩ := bind_eq_ok_iff.mp read
  cases same
  exact ⟨field, query, bucket, queried, counted, rfl⟩

/-- Overall statistics count the numbers in the range, and their lower bound is the one that is
given, or the least of them; both are finite if there is a number. -/
theorem exists_count_of_stats_onStore {b : StatBucket R}
    (h : (req.stats ctx index).onStore st = .value b) :
    ∃ n : Nat, b.count = n ∧ b.lower = req.rangeStart.or b.min ∧
      (0 < n → ∀ x, b.lower = some x → Scalar.isFinite x = true) := by
  obtain ⟨field, query, bucket, queried, counted, rfl⟩ := exists_statsOf_of_stats_onStore h
  have counts := StatBucket.count_of_ofJson counted
  refine ⟨_, counts, rfl, fun positive x lower => ?_⟩
  rcases Option.or_eq_some_iff.mp lower with given | ⟨-, least⟩
  · obtain ⟨y, hy⟩ := List.exists_mem_of_length_pos positive
    obtain ⟨doc, stored, -⟩ := List.mem_flatMap.mp hy
    exact isFinite_of_boundedQuery queried (List.mem_filter.mp stored).2 given
  · exact StatBucket.isFinite_of_min counted least

/-! ### Histograms -/

/-- Where the bins from a start are laid, given their width. -/
def binOffset (start : Option R) (step : R) : R :=
  ((start.map (Scalar.modulo · step)).filter Scalar.isFinite).getD (Scalar.ofInt 0)

/-- A histogram is read off that of the store. -/
theorem exists_histogramOf_of_histogram_onStore {start : Option R} {step : R}
    {buckets : List (StatBucket R)}
    (h : (req.histogram ctx index start step).onStore st = .value buckets) :
    ∃ field query bins, req.boundedQuery ctx index field start = .ok query ∧
      ((Store.histogramOf (st.selected index query) field.name step (binOffset start step)).get?
        "buckets").bind Json.items? = some bins ∧
      StatBucket.ofBins step bins = .ok buckets := by
  rw [histogram, Dialogue.onStore_bind, Outcome.bind_eq_value_iff] at h
  obtain ⟨⟨path, search⟩, searched, read⟩ := h
  rw [Dialogue.onStore_ofExcept, Outcome.ofExcept_eq_value_iff] at searched
  obtain ⟨field, query, queried, same⟩ := exists_of_histogramSearch searched
  cases same
  rw [Dialogue.onStore_searchReading, Outcome.ofExcept_eq_value_iff,
    Breakdown.unwrap_answer (by decide)] at read
  obtain ⟨result, same, read⟩ := bind_eq_ok_iff.mp read
  cases same
  obtain ⟨placed, bins, written, -⟩ :=
    Store.exists_bins_of_histogramOf (st.selected index query) field.name step (binOffset start step)
  have result : Store.resultOf (st.selected index query)
      (.histogram field.name step (start.map (Scalar.modulo · step))) =
        Store.histogramOf (st.selected index query) field.name step (binOffset start step) := rfl
  rw [result, written] at read
  exact ⟨field, query, bins, queried, written, read⟩

/-- Every bin of a histogram is read off a bin of the store. -/
theorem exists_bin_of_histogram_onStore {start : Option R} {step : R}
    {buckets : List (StatBucket R)}
    (h : (req.histogram ctx index start step).onStore st = .value buckets) :
    ∃ field placed, ∀ b ∈ buckets, ∃ k,
      StatBucket.ofBin step (Store.bin field step (binOffset start step) placed k) = .ok b := by
  obtain ⟨field, query, bins, -, written, read⟩ := exists_histogramOf_of_histogram_onStore h
  obtain ⟨placed, bins', written', numbered⟩ :=
    Store.exists_bins_of_histogramOf (st.selected index query) field.name step (binOffset start step)
  cases written.symm.trans written'
  refine ⟨field.name, placed, fun b hb => ?_⟩
  obtain ⟨bin, mem, readBin⟩ := StatBucket.exists_of_mem_ofBins read hb
  obtain ⟨k, rfl⟩ := numbered bin mem
  exact ⟨k, readBin⟩

end AggregationRequest

end TieredSearch
