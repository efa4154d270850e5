import TieredSearch.Proofs.Aggregation.Numeric
import TieredSearch.Search.Retrieval

/-!
# Operations on no documents

What the operations on a store come to when their filters admit no stored document: no bucket of
terms (`TermsRequest.eq_nil_of_run_onStore`), no number in any bucket of a numeric aggregation
(`AggregationRequest.count_eq_zero_of_runPlan`) and a total of zero (`eq_zero_of_totalCount`).
-/

namespace TieredSearch

variable {R : Type} [Scalar R] {ctx : Context} {index : String} {st : Store R}

/-- A restriction lets no stored document of an index through, whatever the filter beside it. -/
def Context.Excludes (ctx : Context) (st : Store R) (index : String) (user : Option (Filter R))
    (excludeField : Option String) (filterSelf : Bool) (extra : Option (Filter R)) : Prop :=
  ∀ query, ctx.compileFilter index user excludeField filterSelf extra = .ok query →
    st.selected index query = []

/-! ### Terms -/

namespace TermsRequest

variable {req : TermsRequest R}

/-- No documents have no terms. -/
theorem Plan.counts_eq_nil {plan : Plan R} (none : st.selected plan.index plan.query = []) :
    plan.counts st = [] := by
  rw [counts, none]
  rfl

/-- Planned over no documents, an enumeration lists nothing. -/
theorem run_onStore_of_nothing {plan : Plan R} (planned : req.plan ctx index = .ok plan)
    (nothing : st.selected index plan.query = []) (patient : 0 < ctx.patience) :
    (req.run ctx index).onStore st = .value [] := by
  obtain ⟨s, f, query, -, -, -, rfl⟩ := plan_eq_ok_iff.mp planned
  -- the only page is empty, and names no cursor
  have page (size : Nat) : Store.termPage
      ((⟨index, f, query, ctx.config.aggregation.pageSize, req.missingKey⟩ : Plan R).counts st) size none =
        [] := by
    rw [Plan.counts_eq_nil nothing]
    exact List.take_nil
  have last : (if ([] : List (Json R × Nat)).length < ctx.config.aggregation.pageSize then none
      else Store.cursorBehind ([] : List (Json R × Nat))) = none := ite_self none
  obtain ⟨patience, hpatience⟩ := Nat.exists_eq_succ_of_ne_zero patient.ne'
  rw [run, enumerate, planned, Dialogue.onStore_bounded, Dialogue.ofExcept_ok, Dialogue.value_bind,
    Dialogue.onStore_bind, hpatience, Plan.pages_succ_onStore (page _), last]
  rfl

theorem eq_nil_of_run_onStore
    (excluded : ctx.Excludes st index req.filter req.excludeField req.filterSelf req.extra)
    {buckets : List TermBucket} (h : (req.run ctx index).onStore st = .value buckets) : buckets = [] := by
  obtain ⟨plan, planned⟩ := exists_plan_of_run_onStore h
  have nothing : st.selected index plan.query = [] := by
    obtain ⟨s, f, query, -, -, compiled, rfl⟩ := plan_eq_ok_iff.mp planned
    exact excluded query compiled
  rcases Nat.eq_zero_or_pos ctx.patience with hpatience | patient
  · -- without patience there is no page
    rw [run, enumerate, planned, Dialogue.onStore_bounded, Outcome.bounded_eq_value_iff,
      Dialogue.ofExcept_ok, Dialogue.value_bind, hpatience] at h
    cases h
  · rw [run_onStore_of_nothing planned nothing patient] at h
    exact (Outcome.value.inj h).symm

end TermsRequest

/-! ### Numbers -/

namespace AggregationRequest

variable {req : AggregationRequest R}

/-- Bounds beside the filters take away further. -/
theorem selected_eq_nil_of_boundedQuery
    (excluded : ctx.Excludes st index req.filter (some req.field) req.filterSelf req.authFilter)
    {field : Field} {start : Option R} {query : Option (Query R)}
    (queried : req.boundedQuery ctx index field start = .ok query) : st.selected index query = [] := by
  obtain ⟨base, compiled, same⟩ := bind_eq_ok_iff.mp queried
  cases same
  refine List.filter_eq_nil_iff.mpr fun doc stored admitted => ?_
  rw [Query.admits_beside, Bool.and_eq_true] at admitted
  exact List.filter_eq_nil_iff.mp (excluded base compiled) doc stored admitted.1

theorem count_eq_zero_of_stats
    (excluded : ctx.Excludes st index req.filter (some req.field) req.filterSelf req.authFilter)
    {b : StatBucket R} (h : (req.stats ctx index).onStore st = .value b) : b.count = 0 := by
  obtain ⟨field, query, bucket, queried, read, rfl⟩ := exists_statsOf_of_stats_onStore h
  rw [selected_eq_nil_of_boundedQuery excluded queried] at read
  exact StatBucket.count_of_ofJson read

theorem eq_nil_of_histogram
    (excluded : ctx.Excludes st index req.filter (some req.field) req.filterSelf req.authFilter)
    {start : Option R} {step : R} {buckets : List (StatBucket R)}
    (h : (req.histogram ctx index start step).onStore st = .value buckets) : buckets = [] := by
  obtain ⟨field, query, bins, queried, written, read⟩ := exists_histogramOf_of_histogram_onStore h
  rw [selected_eq_nil_of_boundedQuery excluded queried] at written
  cases written
  cases read
  rfl

/-- Over no documents, overall statistics can be read. -/
theorem exists_stats_of_nothing {found : List String × Search R}
    (searched : req.statsSearch ctx index = .ok found)
    (nothing : st.selected index found.2.query = []) :
    ∃ b, (req.stats ctx index).onStore st = .value b := by
  obtain ⟨field, query, -, rfl⟩ := exists_of_statsSearch searched
  rw [stats, searched, Dialogue.ofExcept_ok, Dialogue.value_bind, Dialogue.onStore_searchReading,
    Breakdown.unwrap_answer (by decide), nothing]
  exact ⟨_, rfl⟩

/-- Over no documents, a histogram has no bins. -/
theorem histogram_of_nothing {start : Option R} {step : R} {found : List String × Search R}
    (searched : req.histogramSearch ctx index start step = .ok found)
    (nothing : st.selected index found.2.query = []) :
    (req.histogram ctx index start step).onStore st = .value [] := by
  obtain ⟨field, query, -, rfl⟩ := exists_of_histogramSearch searched
  rw [histogram, searched, Dialogue.ofExcept_ok, Dialogue.value_bind, Dialogue.onStore_searchReading,
    Breakdown.unwrap_answer (by decide), nothing]
  rfl

/-- Of no documents, no bucket counts any. -/
theorem count_eq_zero_of_runPlan
    (excluded : ctx.Excludes st index req.filter (some req.field) req.filterSelf req.authFilter)
    {plan : NumericPlan R} {buckets : List (StatBucket R)}
    (h : (req.runPlan ctx index plan).onStore st = .value buckets) : ∀ b ∈ buckets, b.count = 0 := by
  cases plan with
  | stats =>
    rw [runPlan, Dialogue.onStore_bind, Outcome.bind_eq_value_iff] at h
    obtain ⟨bucket, run, same⟩ := h
    cases same
    simpa using count_eq_zero_of_stats excluded run
  | histogram start step =>
    rw [eq_nil_of_histogram excluded h]
    simp
  | empty =>
    cases h
    simp

end AggregationRequest

/-! ### Totals -/

omit [Scalar R] in
/-- The total that is read off an answer which has it as a member. -/
theorem int?_of_readTotal {answer hits total value : Json R} (found : answer.get? "hits" = some hits)
    (member : hits.get? "total" = some total) (inner : total.get? "value" = some value) {n : Int}
    (read : readTotal answer = .ok n) : value.int? = some n := by
  rw [readTotal, found, Option.bind_some, member] at read
  simp only [inner, Option.getD_some] at read
  split at read
  next m counted =>
    cases read
    exact counted
  next => cases read

/-- A total counts the documents that are selected. -/
theorem exists_selected_of_totalCount {filter extra : Option (Filter R)} {n : Int}
    (h : (totalCount ctx index filter extra).onStore st = .value n) :
    ∃ query, ctx.compileFilter index filter none true extra = .ok query ∧
      n = (st.selected index query).length := by
  rw [totalCount, Dialogue.onStore_bind, Outcome.bind_eq_value_iff] at h
  obtain ⟨query, compiled, read⟩ := h
  rw [Dialogue.onStore_ofExcept, Outcome.ofExcept_eq_value_iff] at compiled
  rw [Dialogue.onStore_searchReading, Outcome.ofExcept_eq_value_iff] at read
  exact ⟨query, compiled, Json.eq_of_int?_int (int?_of_readTotal rfl rfl rfl read)⟩

/-- Of no documents, the total is zero. -/
theorem totalCount_of_nothing {filter extra : Option (Filter R)} {query : Option (Query R)}
    (compiled : ctx.compileFilter index filter none true extra = .ok query)
    (nothing : st.selected index query = []) :
    (totalCount ctx index filter extra).onStore st = .value 0 := by
  have answered : st.answer ⟨index, query, .total⟩ = Json.object [("hits", some (.obj [
      ("total", .obj [("value", .int 0), ("relation", .str "eq")]), ("hits", .arr [])]))] := by
    simp only [Store.answer, nothing]
    rfl
  rw [totalCount, compiled, Dialogue.ofExcept_ok, Dialogue.value_bind, Dialogue.onStore_searchReading,
    answered]
  rfl

theorem eq_zero_of_totalCount {filter extra : Option (Filter R)}
    (excluded : ctx.Excludes st index filter none true extra) {n : Int}
    (h : (totalCount ctx index filter extra).onStore st = .value n) : n = 0 := by
  obtain ⟨query, compiled, rfl⟩ := exists_selected_of_totalCount h
  rw [excluded query compiled]
  rfl

end TieredSearch
