import TieredSearch.Proofs.Aggregation.Numeric
import TieredSearch.Proofs.Search.Exchange
import TieredSearch.Search.Retrieval

/-!
# Searches that are answered

`Search.AnsweredBy` says of a search and an answer, without any reader, that the answer has
everything the search is made for: the list of rows, the total, or below the nested scopes the counts
of the metric and of each of its buckets. Every plain operation demands that each of its searches is
answered in this sense, and an enumeration besides that its pages are read one behind the other up to
the last one (`TermsRequest.Plan.ReadToEnd`).
-/

namespace TieredSearch

variable {R : Type} [Scalar R]

/-! ### What an answer must have -/

/-- The result has what the metric is computed for. -/
def Metric.AnsweredBy (result : Json R) : Metric R → Prop
  | .stats _ => ∃ n, (result.get? "count").bind Json.int? = some n
  | .histogram .. => ∃ bins, (result.get? "buckets").bind Json.items? = some bins ∧ ∀ bin ∈ bins,
      (∃ key, (bin.get? "key").bind Json.number? = some key) ∧
      (∃ stats n, bin.get? binStatsName = some stats ∧
        (stats.get? "count").bind Json.int? = some n) ∧
      ∃ n, (bin.get? "doc_count").bind Json.int? = some n
  | .terms .. => ∃ buckets, (result.get? "buckets").bind Json.items? = some buckets ∧
      ∀ bucket ∈ buckets, ∃ n, (bucket.get? "doc_count").bind Json.int? = some n

/-- The part of an answer has the nested scopes of the breakdown, and inside them its result. -/
def Breakdown.AnsweredBy (part : Json R) : Breakdown R → Prop
  | .named name metric => ∃ result, part.get? name = some result ∧ metric.AnsweredBy result
  | .nested _ inner => ∃ inside, part.get? nestedScopeName = some inside ∧ inner.AnsweredBy inside

/-- The answer has what the search is for. -/
def Search.AnsweredBy (s : Search R) (answer : Json R) : Prop :=
  match s.purpose with
  | .rows _ => ∃ hits rows, answer.get? "hits" = some hits ∧
      (hits.get? "hits").bind Json.items? = some rows
  | .total => ∃ hits total n, answer.get? "hits" = some hits ∧ hits.get? "total" = some total ∧
      ((total.get? "value").getD total).int? = some n
  | .breakdown b => ∃ part, answer.get? "aggregations" = some part ∧ b.AnsweredBy part

/-- The reply is an answer that has what the search is for. -/
def Reply.Answers (s : Search R) (reply : Reply R) : Prop :=
  ∃ answer, reply = .body answer ∧ s.AnsweredBy answer

/-! ### What is read -/

omit [Scalar R] in
/-- The rows are read off an answer that lists them. -/
theorem exists_hits_of_readRows {answer : Json R} {rows : List (Json R)}
    (read : RowRequest.readRows answer = .ok rows) :
    ∃ hits items, answer.get? "hits" = some hits ∧
      (hits.get? "hits").bind Json.items? = some items := by
  unfold RowRequest.readRows at read
  split at read
  next items listed =>
    rw [Option.bind_assoc, Option.bind_eq_some_iff] at listed
    obtain ⟨hits, found, listed⟩ := listed
    exact ⟨hits, items, found, listed⟩
  next => cases read

omit [Scalar R] in
/-- The total is read off an answer that has it. -/
theorem exists_total_of_readTotal {answer : Json R} {n : Int} (read : readTotal answer = .ok n) :
    ∃ hits total n, answer.get? "hits" = some hits ∧ hits.get? "total" = some total ∧
      ((total.get? "value").getD total).int? = some n := by
  unfold readTotal at read
  split at read
  next => cases read
  next total found =>
    obtain ⟨hits, member, found⟩ := Option.bind_eq_some_iff.mp found
    split at read
    next n whole => exact ⟨hits, total, n, member, found, whole⟩
    next => cases read

namespace Breakdown

omit [Scalar R] in
theorem descend_cons {name path : String} {paths : List String} {part result : Json R}
    (found : descend name (path :: paths).length part = .ok result) :
    ∃ inside, part.get? nestedScopeName = some inside ∧
      descend name paths.length inside = .ok result := by
  rw [List.length_cons, descend] at found
  split at found
  next inside member => exact ⟨inside, member, found⟩
  next => cases found

/-- A result that is found stands below the nested scopes. -/
theorem answeredBy_of_descend {name : String} {paths : List String} {metric : Metric R}
    {part result : Json R} (found : descend name paths.length part = .ok result)
    (answered : metric.AnsweredBy result) : (wrap paths name metric).AnsweredBy part := by
  induction paths generalizing part with
  | nil =>
    rw [List.length_nil, descend] at found
    split at found
    next member =>
      cases found
      exact ⟨_, member, answered⟩
    next => cases found
  | cons path paths ih =>
    obtain ⟨inside, member, found⟩ := descend_cons found
    exact ⟨inside, member, ih found⟩

/-- A result that is read off an answer stands below its aggregations. -/
theorem answeredBy_of_unwrap {name : String} {paths : List String} {metric : Metric R}
    {answer result : Json R} (found : unwrap paths name answer = .ok result)
    (answered : metric.AnsweredBy result) :
    ∃ part, answer.get? "aggregations" = some part ∧ (wrap paths name metric).AnsweredBy part := by
  unfold unwrap at found
  split at found
  next part member => exact ⟨part, member, answeredBy_of_descend found answered⟩
  next => cases found

end Breakdown

/-- Every bucket that is counted has a count. -/
theorem TermTally.exists_docCount_of_countPage {missingKey : Option String}
    {tally counted : TermTally} {page : List (Json R)}
    (read : tally.countPage missingKey page = .ok counted) :
    ∀ bucket ∈ page, ∃ n, (bucket.get? "doc_count").bind Json.int? = some n := by
  induction page generalizing tally with
  | nil => simp
  | cons bucket page ih =>
    rw [countPage] at read
    obtain ⟨next, one, rest⟩ := bind_eq_ok_iff.mp read
    intro b hb
    rcases List.mem_cons.mp hb with rfl | hb
    · rw [count] at one
      split at one
      next => cases one
      next n has => exact ⟨n, has⟩
    · exact ih rest b hb

namespace StatBucket

/-- Every bin that is read has a key, statistics and a count. -/
theorem answered_of_ofBins {step : R} {bins : List (Json R)} {buckets : List (StatBucket R)}
    (read : ofBins step bins = .ok buckets) :
    ∀ bin ∈ bins, (∃ key : R, (bin.get? "key").bind Json.number? = some key) ∧
      (∃ stats n, bin.get? binStatsName = some stats ∧
        (stats.get? "count").bind Json.int? = some n) ∧
      ∃ n, (bin.get? "doc_count").bind Json.int? = some n := by
  induction bins generalizing buckets with
  | nil => simp
  | cons bin bins ih =>
    rw [ofBins] at read
    obtain ⟨bucket, one, rest⟩ := bind_eq_ok_iff.mp read
    obtain ⟨others, rest, -⟩ := bind_eq_ok_iff.mp rest
    intro b hb
    rcases List.mem_cons.mp hb with rfl | hb
    · rw [ofBin] at one
      split at one
      next => cases one
      next key hasKey =>
        split at one
        next => cases one
        next stats hasStats =>
          obtain ⟨overall, counted, one⟩ := bind_eq_ok_iff.mp one
          have hasCount := get?_count_of_ofJson counted
          split at one
          next => cases one
          next m has => exact ⟨⟨key, hasKey⟩, ⟨stats, _, hasStats, hasCount⟩, m, has⟩
    · exact ih rest b hb

end StatBucket

/-! ### What the operations demand -/

variable {σ : Type} {serve : Search R → σ → Reply R × σ} {ctx : Context} {index : String}

open Dialogue (Demands)

theorem RowRequest.demands_run (req : RowRequest R) :
    (req.run ctx index).Demands serve Reply.Answers := by
  refine Demands.ofExcept_bind fun search searched => Demands.searchReading fun answer rows read => ?_
  obtain ⟨query, -, searched⟩ := bind_eq_ok_iff.mp searched
  obtain ⟨sort, -, searched⟩ := bind_eq_ok_iff.mp searched
  cases searched
  exact ⟨answer, rfl, exists_hits_of_readRows read⟩

theorem demands_totalCount (filter scope : Option (Filter R)) :
    (totalCount ctx index filter scope).Demands serve Reply.Answers :=
  Demands.ofExcept_bind fun _ _ => Demands.searchReading fun answer _ read =>
    ⟨answer, rfl, exists_total_of_readTotal read⟩

namespace AggregationRequest

theorem demands_stats (req : AggregationRequest R) :
    (req.stats ctx index).Demands serve Reply.Answers := by
  refine Demands.ofExcept_bind fun (path, search) searched =>
    Demands.searchReading fun answer bucket read => ?_
  obtain ⟨field, query, -, same⟩ := exists_of_statsSearch searched
  cases same
  obtain ⟨result, found, read⟩ := bind_eq_ok_iff.mp read
  obtain ⟨overall, counted, -⟩ := bind_eq_ok_iff.mp read
  have answered : (Metric.stats field.name : Metric R).AnsweredBy result :=
    ⟨_, StatBucket.get?_count_of_ofJson counted⟩
  exact ⟨answer, rfl, Breakdown.answeredBy_of_unwrap found answered⟩

theorem demands_plan (req : AggregationRequest R) :
    (req.plan ctx index).Demands serve Reply.Answers := by
  refine Demands.ofExcept_bind fun _ _ => ?_
  split
  · exact Demands.done _
  · exact (demands_stats req).bind fun overall => Demands.done _
  · exact Demands.done _

theorem demands_histogram (req : AggregationRequest R) (start : Option R) (step : R) :
    (req.histogram ctx index start step).Demands serve Reply.Answers := by
  refine Demands.ofExcept_bind fun (path, search) searched =>
    Demands.searchReading fun answer buckets read => ?_
  obtain ⟨field, query, -, same⟩ := exists_of_histogramSearch searched
  cases same
  obtain ⟨result, found, read⟩ := bind_eq_ok_iff.mp read
  split at read
  next bins listed =>
    have answered : (Metric.histogram field.name step (start.map (Scalar.modulo · step))).AnsweredBy
        result := ⟨bins, listed, StatBucket.answered_of_ofBins read⟩
    exact ⟨answer, rfl, Breakdown.answeredBy_of_unwrap found answered⟩
  next => cases read

theorem demands_runPlan (req : AggregationRequest R) (plan : NumericPlan R) :
    (req.runPlan ctx index plan).Demands serve Reply.Answers := by
  cases plan with
  | stats => exact (demands_stats req).bind fun bucket => Demands.done _
  | histogram start step => exact demands_histogram req start step
  | empty => exact Demands.done _

end AggregationRequest

/-! ### Enumerations -/

namespace TermsRequest

/-- The record of an enumeration from a cursor on: pages one behind the other, up to one that is
not full or names no cursor. -/
inductive Plan.ReadToEnd (plan : Plan R) : Option (Json R) → List (Search R × Reply R) → Prop where
  /-- The last page. -/
  | last {after answer page cursor} (read : plan.readPage answer = .ok (page, cursor))
      (ends : page.length < plan.pageSize ∨ cursor = none) :
      plan.ReadToEnd after [(plan.search after, .body answer)]
  /-- A full page, and those behind it. -/
  | more {after answer page cursor rest} (read : plan.readPage answer = .ok (page, some cursor))
      (full : plan.pageSize ≤ page.length) (behind : plan.ReadToEnd (some cursor) rest) :
      plan.ReadToEnd after ((plan.search after, .body answer) :: rest)

/-- Pages that come to a tally have been read to the end. -/
theorem Plan.readToEnd_pages {plan : Plan R} {patience : Nat} {cursor : Option (Json R)}
    {tally counted : TermTally} {state after : σ}
    (run : (plan.pages patience cursor tally).Yields serve state counted after) :
    plan.ReadToEnd cursor ((plan.pages patience cursor tally).exchanges serve state) := by
  induction patience generalizing cursor tally state with
  | zero => cases run.1
  | succ patience ih =>
    obtain ⟨⟨tally, next⟩, between, first, rest⟩ := Dialogue.yields_bind.mp run
    rw [pages, Dialogue.exchanges_bind first, Dialogue.exchanges_searchReading]
    obtain ⟨answer, replied, read, -⟩ := Dialogue.yields_searchReading.mp first
    obtain ⟨⟨page, behind⟩, paged, counting⟩ := bind_eq_ok_iff.mp read
    obtain ⟨tally', -, same⟩ := bind_eq_ok_iff.mp counting
    have goesOn : (if page.length < plan.pageSize then none else behind) = next := by
      cases same
      rfl
    rw [replied]
    cases next with
    | none =>
      refine .last paged ?_
      by_cases last : page.length < plan.pageSize
      · exact .inl last
      · rw [if_neg last] at goesOn
        exact .inr goesOn
    | some next =>
      by_cases last : page.length < plan.pageSize
      · rw [if_pos last] at goesOn
        cases goesOn
      · rw [if_neg last] at goesOn
        subst goesOn
        exact .more paged (Nat.le_of_not_lt last) (ih rest)

theorem Plan.demands_pages (plan : Plan R) (patience : Nat) (cursor : Option (Json R))
    (tally : TermTally) : (plan.pages patience cursor tally).Demands serve Reply.Answers := by
  induction patience generalizing cursor tally with
  | zero => exact Demands.done _
  | succ patience ih =>
    refine Demands.bind (Demands.searchReading fun answer _ read => ?_) fun (tally, next) => ?_
    · obtain ⟨⟨page, behind⟩, paged, counting⟩ := bind_eq_ok_iff.mp read
      obtain ⟨tally', counted, -⟩ := bind_eq_ok_iff.mp counting
      obtain ⟨listing, found, listed⟩ := bind_eq_ok_iff.mp paged
      split at listed
      next buckets has =>
        cases listed
        have answered : (Metric.terms plan.field.name plan.pageSize cursor).AnsweredBy listing :=
          ⟨_, has, TermTally.exists_docCount_of_countPage counted⟩
        exact ⟨answer, rfl, Breakdown.answeredBy_of_unwrap found answered⟩
      next => cases listed
    · cases next with
      | none => exact Demands.done _
      | some next => exact ih (some next) tally

variable (req : TermsRequest R)

theorem demands_run : (req.run ctx index).Demands serve Reply.Answers :=
  .bounded _ _ (Demands.ofExcept_bind fun plan _ =>
    (plan.demands_pages ctx.patience none {}).bind fun _ => Demands.done _)

/-- An enumeration that comes to a value has been read from the first page to the last. -/
theorem exists_readToEnd_of_yields {buckets : List TermBucket} {state after : σ}
    (run : (req.run ctx index).Yields serve state buckets after) :
    ∃ plan, req.plan ctx index = .ok plan ∧
      plan.ReadToEnd none ((req.run ctx index).exchanges serve state) := by
  rw [TermsRequest.run, Dialogue.yields_bounded, enumerate] at run
  rw [TermsRequest.run, Dialogue.exchanges_bounded, enumerate]
  cases planned : req.plan ctx index with
  | error e =>
    rw [planned] at run
    cases run.1
  | ok plan =>
    rw [planned, Dialogue.ofExcept_ok, Dialogue.value_bind] at run
    obtain ⟨tally, between, run, -⟩ := Dialogue.yields_bind.mp run
    refine ⟨plan, rfl, ?_⟩
    have record : ((plan.pages ctx.patience none {}).map fun tally => tally.sorted req.missingKey).exchanges
        serve state = _ :=
      Dialogue.exchanges_map (plan.pages ctx.patience none {}) _ state
    exact record ▸ Plan.readToEnd_pages run

end TermsRequest

end TieredSearch
