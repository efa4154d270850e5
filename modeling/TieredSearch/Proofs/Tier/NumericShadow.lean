import TieredSearch.Proofs.Aggregation.Numeric
import TieredSearch.Proofs.Number.Laws
import TieredSearch.Proofs.Tier.Shadow

/-!
# Small groups of a numeric aggregation

A bucket is suppressed when its shadow, the bucket with the same lower bound among those of the
documents out of scope, is small. Main statement (`small_group_disclosed_iff`): which small shadows
are disclosed nevertheless. Of overall statistics, one is when no lower bound is given and the least
value out of scope is not the least of all: each run then takes its own least value for its lower
bound. Of a histogram, one is when an earlier bin of the shadow has the same lower bound, which does
not happen in exact arithmetic.
-/

namespace TieredSearch

variable {R : Type} [Scalar R]

/-! ### Pairing buckets -/

namespace Redaction

/-- The shadow of a bucket is small, and the bucket is shown with its count. -/
def Discloses (limit : Int) (bucket shadow : StatBucket R) : Prop :=
  0 < shadow.count ∧ shadow.count < limit ∧ bucket.count ≠ suppressedCount

@[simp] theorem lower_stat (r : Redaction) (shadow : List (StatBucket R)) (bucket : StatBucket R) :
    (r.stat shadow bucket).lower = bucket.lower := by
  rw [stat]
  split <;> rfl

@[simp] theorem min_stat (r : Redaction) (shadow : List (StatBucket R)) (bucket : StatBucket R) :
    (r.stat shadow bucket).min = bucket.min := by
  rw [stat]
  split <;> rfl

/-- A count is suppressed when the first shadow with the lower bound of the bucket is small. -/
theorem count_stat_eq_suppressed_iff {r : Redaction} {shadow : List (StatBucket R)}
    {bucket : StatBucket R} (counts : 0 ≤ bucket.count) :
    (r.stat shadow bucket).count = suppressedCount ↔ ∃ s,
      shadow.find? (fun s => sameBound s.lower bucket.lower) = some s ∧ 0 < s.count ∧
        s.count < r.limit := by
  have shown : bucket.count ≠ suppressedCount := by
    intro hidden
    rw [hidden] at counts
    exact absurd counts (by decide)
  rw [stat]
  split
  next s found =>
    simp only [found, Option.some.injEq, exists_eq_left', count, ← suppresses_iff (r := r)]
    by_cases small : r.suppresses s.count = true
    · simp [small]
    · simp [small, shown]
  next missing =>
    rw [missing]
    refine iff_of_false shown ?_
    rintro ⟨s, found, -⟩
    cases found

end Redaction

/-! ### Layouts -/

/-- Histograms are laid out with a positive width, said in one way or the other. -/
def NumericPlan.Lays : NumericPlan R → Prop
  | .stats => False
  | .histogram _ step =>
    Scalar.lt (Scalar.ofInt 0) step = true ∨ Scalar.le step (Scalar.ofInt 0) = false
  | .empty => True

namespace AggregationRequest

variable {ctx : Context} {index : String} {req : AggregationRequest R} {st : Store R}

theorem step_pos_of_validate {step : R} (given : req.rangeStep = some step)
    (valid : req.validate = .ok ()) :
    Scalar.lt (Scalar.ofInt 0) step = true := by
  refine Bool.eq_true_of_not_eq_false fun empty => ?_
  cases bins : req.binCount <;>
    simp [validate, given, bins, empty, bind, Except.bind, throw, throwThe,
      MonadExceptOf.throw] at valid

theorem lays_derivedPlan (bins : Int) (overall : StatBucket R) :
    (req.derivedPlan bins overall).Lays := by
  rw [derivedPlan]
  split
  next start stop =>
    simp only
    split_ifs with positive
    · trivial
    · exact .inr (Bool.eq_false_iff.mpr positive)
  next => trivial

/-- Without a width and without a number of bins, the layout is that of overall statistics;
otherwise it is that of a histogram. -/
theorem plan_of_onStore {plan : NumericPlan R} (h : (req.plan ctx index).onStore st = .value plan) :
    (req.rangeStep = none ∧ req.binCount = none → plan = .stats) ∧
      (¬(req.rangeStep = none ∧ req.binCount = none) → plan.Lays) := by
  rw [AggregationRequest.plan, Dialogue.onStore_bind, Dialogue.onStore_ofExcept,
    Outcome.bind_eq_value_iff] at h
  obtain ⟨⟨⟩, valid, h⟩ := h
  rw [Outcome.ofExcept_eq_value_iff] at valid
  cases width : req.rangeStep with
  | some step =>
    rw [width] at h
    cases h
    refine ⟨fun overall => ?_, fun _ => .inl (step_pos_of_validate width valid)⟩
    cases overall.1
  | none =>
    cases count : req.binCount with
    | some bins =>
      simp only [width, count, Dialogue.onStore_bind, Outcome.bind_eq_value_iff] at h
      obtain ⟨overall, -, h⟩ := h
      cases h
      refine ⟨fun overall => ?_, fun _ => lays_derivedPlan bins overall⟩
      cases overall.2
    | none =>
      simp only [width, count] at h
      cases h
      exact ⟨fun _ => rfl, fun binned => absurd ⟨rfl, rfl⟩ binned⟩

/-- Overall statistics are one bucket. -/
theorem exists_bucket_of_stats {buckets : List (StatBucket R)}
    (h : (req.runPlan ctx index .stats).onStore st = .value buckets) :
    ∃ b, buckets = [b] ∧ (req.stats ctx index).onStore st = .value b := by
  rw [runPlan, Dialogue.onStore_bind, Outcome.bind_eq_value_iff] at h
  obtain ⟨b, run, same⟩ := h
  cases same
  exact ⟨b, rfl, run⟩

/-- No bucket counts less than nothing. -/
theorem count_nonneg_of_runPlan {plan : NumericPlan R} {buckets : List (StatBucket R)}
    (h : (req.runPlan ctx index plan).onStore st = .value buckets) :
    ∀ b ∈ buckets, 0 ≤ b.count := by
  intro b hb
  cases plan with
  | stats =>
    obtain ⟨bucket, rfl, run⟩ := exists_bucket_of_stats h
    obtain ⟨n, counted, -⟩ := exists_count_of_stats_onStore run
    rw [List.mem_singleton.mp hb, counted]
    exact Int.natCast_nonneg n
  | histogram start step =>
    obtain ⟨field, placed, bins⟩ := exists_bin_of_histogram_onStore h
    obtain ⟨k, read⟩ := bins b hb
    exact (StatBucket.bound_of_ofBin read).2.1
  | empty =>
    cases h
    cases hb

end AggregationRequest

/-! ### Both runs -/

namespace Mediation

variable {ctx : Context} {index : String} {scope : Scope} {st : Store R}
    {req : AggregationRequest R}

/-- Asked for all of it, a regular index answers a numeric aggregation by two runs of one layout,
the first one redacted by the second. -/
theorem exists_runs_of_numeric_onStore (served : ctx.config.effectiveLevel index = some .regular)
    (whole : scope.isDegraded = false) {answer : List (StatBucket R)}
    (h : ((Mediation.mk ctx scope).numeric index req .all).onStore st = .value answer) :
    ∃ plan primary shadow,
      ((req.restricted (Decision.sensitiveExclusion ctx scope)).plan ctx index).onStore st =
        .value plan ∧
      ((req.restricted (Decision.sensitiveExclusion ctx scope)).runPlan ctx index plan).onStore st =
        .value primary ∧
      ((shadowRequest ctx scope req).runPlan ctx index plan).onStore st = .value shadow ∧
      answer = (Redaction.ofConfig ctx.config).stats primary shadow := by
  rw [numeric_eq, Dialogue.onStore_bind, Outcome.bind_eq_value_iff] at h
  obtain ⟨-, -, h⟩ := h
  obtain ⟨paths, listed, plan, laid, primary, between, shadow, listing, laying, first, second, rfl⟩ :=
    exists_runs_of_yields served whole rfl rfl (Dialogue.yields_store_iff.mpr ⟨h, rfl⟩)
  obtain ⟨-, rfl⟩ := Dialogue.yields_store_iff.mp listing
  obtain ⟨planned, rfl⟩ := Dialogue.yields_store_iff.mp laying
  obtain ⟨primaryRun, rfl⟩ := Dialogue.yields_store_iff.mp first
  obtain ⟨shadowRun, -⟩ := Dialogue.yields_store_iff.mp second
  exact ⟨plan, primary, shadow, planned, primaryRun, shadowRun, rfl⟩

end Mediation

/-! ### What is disclosed -/

namespace AggregationRequest

variable {ctx : Context} {index : String} {req other : AggregationRequest R} {st : Store R}
    {r : Redaction}

/-- The lower bound of two runs of overall statistics is the same one, unless each takes its own
least value for it. -/
theorem sameBound_of_stats [Scalar.FiniteRefl R] {b s : StatBucket R}
    (run : (req.stats ctx index).onStore st = .value b)
    (shadowRun : (other.stats ctx index).onStore st = .value s)
    {start : Option R} (bounded : req.rangeStart = start) (boundedShadow : other.rangeStart = start)
    (counted : 0 < s.count) :
    Redaction.sameBound s.lower b.lower = true ↔
      ¬(start = none ∧ Redaction.sameBound s.min b.min = false) := by
  obtain ⟨-, -, lower, -⟩ := exists_count_of_stats_onStore run
  obtain ⟨n, count, shadowLower, finite⟩ := exists_count_of_stats_onStore shadowRun
  rw [shadowLower] at finite
  rw [lower, shadowLower, bounded, boundedShadow]
  cases start with
  | none => simp
  | some x =>
    have finite : Scalar.isFinite x = true := finite (by omega) x (by rw [boundedShadow]; rfl)
    simp [Redaction.sameBound, Scalar.FiniteRefl.eq_self finite]

/-- Overall statistics disclose a small shadow when no lower bound is given and the least values of
the two runs differ. -/
theorem discloses_stats_iff [Scalar.FiniteRefl R] {b s : StatBucket R}
    (run : (req.stats ctx index).onStore st = .value b)
    (shadowRun : (other.stats ctx index).onStore st = .value s)
    {start : Option R} (bounded : req.rangeStart = start)
    (boundedShadow : other.rangeStart = start) :
    Redaction.Discloses r.limit (r.stat [s] b) s ↔
      0 < s.count ∧ s.count < r.limit ∧ start = none ∧ Redaction.sameBound s.min b.min = false := by
  have counts : 0 ≤ b.count := by
    obtain ⟨n, count, -⟩ := exists_count_of_stats_onStore run
    omega
  rw [Redaction.Discloses, ne_eq, Redaction.count_stat_eq_suppressed_iff counts]
  refine and_congr_right fun positive => and_congr_right fun small => ?_
  have found : (∃ s', [s].find? (fun s' => Redaction.sameBound s'.lower b.lower) = some s' ∧
      0 < s'.count ∧ s'.count < r.limit) ↔ Redaction.sameBound s.lower b.lower = true := by
    cases bound : Redaction.sameBound s.lower b.lower <;> simp [bound, positive, small]
  rw [found, sameBound_of_stats run shadowRun bounded boundedShadow positive, not_not]

/-- In exact arithmetic, a bin has one bin of the shadow at most with its lower bound. -/
theorem eq_of_sameBound [separates : Scalar.SeparatesBins R] {plan : NumericPlan R} (lays : plan.Lays)
    {buckets shadow : List (StatBucket R)}
    (run : (req.runPlan ctx index plan).onStore st = .value buckets)
    (shadowRun : (other.runPlan ctx index plan).onStore st = .value shadow) {b s s' : StatBucket R}
    (hb : b ∈ buckets) (hs : s ∈ shadow) (bound : Redaction.sameBound s.lower b.lower = true)
    (hs' : s' ∈ shadow) (bound' : Redaction.sameBound s'.lower b.lower = true) : s = s' := by
  cases plan with
  | stats => exact lays.elim
  | empty =>
    cases run
    cases hb
  | histogram start step =>
    have width : Scalar.le step (Scalar.ofInt 0) = false := by
      rcases lays with above | above
      · exact separates.not_le_of_lt above
      · exact above
    obtain ⟨field, placed, bins⟩ := exists_bin_of_histogram_onStore run
    obtain ⟨field', placed', bins'⟩ := exists_bin_of_histogram_onStore shadowRun
    obtain ⟨k, read⟩ := bins b hb
    have lower := (StatBucket.bound_of_ofBin read).1
    -- a bin of the shadow with the lower bound of the bucket has its number
    have numbered : ∀ s ∈ shadow, Redaction.sameBound s.lower b.lower = true →
        StatBucket.ofBin step (Store.bin field' step (binOffset start step) placed' k) = .ok s := by
      intro s hs bound
      obtain ⟨k', read'⟩ := bins' s hs
      rw [lower, (StatBucket.bound_of_ofBin read').1, Redaction.sameBound] at bound
      rw [← separates.bin_eq width bound]
      exact read'
    have readFirst := numbered s hs bound
    rw [numbered s' hs' bound'] at readFirst
    cases readFirst
    rfl

/-- A histogram discloses a small shadow when an earlier bin of the shadow has its lower bound and
is not small. In exact arithmetic there is no such bin. -/
theorem discloses_histogram_iff {plan : NumericPlan R} (lays : plan.Lays)
    {buckets shadow : List (StatBucket R)}
    (run : (req.runPlan ctx index plan).onStore st = .value buckets)
    (shadowRun : (other.runPlan ctx index plan).onStore st = .value shadow) {b s : StatBucket R}
    (hb : b ∈ buckets) (hs : s ∈ shadow) (bound : Redaction.sameBound s.lower b.lower = true) :
    (Redaction.Discloses r.limit (r.stat shadow b) s ↔ 0 < s.count ∧ s.count < r.limit ∧
      ∃ s', shadow.find? (fun s' => Redaction.sameBound s'.lower b.lower) = some s' ∧
        ¬(0 < s'.count ∧ s'.count < r.limit)) ∧
    (Scalar.SeparatesBins R → ¬Redaction.Discloses r.limit (r.stat shadow b) s) := by
  have counts := count_nonneg_of_runPlan run b hb
  obtain ⟨first, found⟩ : ∃ first,
      shadow.find? (fun s' => Redaction.sameBound s'.lower b.lower) = some first :=
    Option.isSome_iff_exists.mp (List.find?_isSome.mpr ⟨s, hs, bound⟩)
  constructor
  · rw [Redaction.Discloses, ne_eq, Redaction.count_stat_eq_suppressed_iff counts]
    simp only [found, Option.some.injEq, exists_eq_left']
  · rintro separates ⟨positive, small, shown⟩
    have firstBound : Redaction.sameBound first.lower b.lower = true := by
      simpa using List.find?_some found
    have same : first = s := eq_of_sameBound lays run shadowRun hb
      (List.mem_of_find?_eq_some found) firstBound hs bound
    refine shown ((Redaction.count_stat_eq_suppressed_iff counts).mpr ⟨first, found, ?_⟩)
    rw [same]
    exact ⟨positive, small⟩

end AggregationRequest

/-- What a numeric aggregation over all of a regular index discloses of small groups out of
scope. Overall statistics disclose theirs exactly when no lower bound is given and the least
value out of scope is not that of the whole. A bin of a histogram discloses its own exactly
when the first bin of the shadow with the same lower bound is another one that is not small;
in exact arithmetic, never. -/
theorem small_group_disclosed_iff [Scalar.FiniteRefl R] {ctx : Context} {index : String}
    {scope : Scope}
    (served : ctx.config.effectiveLevel index = some .regular) (whole : scope.isDegraded = false)
    {st : Store R} {req : AggregationRequest R} {answer : List (StatBucket R)}
    (h : ((Mediation.mk ctx scope).numeric index req .all).onStore st = .value answer) :
    ∃ plan shadow,
      ((req.restricted (Decision.sensitiveExclusion ctx scope)).plan ctx index).onStore st =
        .value plan ∧
      ((Mediation.shadowRequest ctx scope req).runPlan ctx index plan).onStore st = .value shadow ∧
      (req.rangeStep = none ∧ req.binCount = none → ∃ b s, answer = [b] ∧ shadow = [s] ∧
        (Redaction.Discloses (ctx.config.tier.limit.getD 0) b s ↔ 0 < s.count ∧
          s.count < ctx.config.tier.limit.getD 0 ∧ req.rangeStart = none ∧
          Redaction.sameBound s.min b.min = false)) ∧
      (¬(req.rangeStep = none ∧ req.binCount = none) → ∀ b ∈ answer, ∀ s ∈ shadow,
        Redaction.sameBound s.lower b.lower = true →
          (Redaction.Discloses (ctx.config.tier.limit.getD 0) b s ↔ 0 < s.count ∧
            s.count < ctx.config.tier.limit.getD 0 ∧
            ∃ s', shadow.find? (fun s' => Redaction.sameBound s'.lower b.lower) = some s' ∧
              ¬(0 < s'.count ∧ s'.count < ctx.config.tier.limit.getD 0)) ∧
          (Scalar.SeparatesBins R → ¬Redaction.Discloses (ctx.config.tier.limit.getD 0) b s)) := by
  have limit : ctx.config.tier.limit.getD 0 = (Redaction.ofConfig ctx.config).limit := rfl
  obtain ⟨plan, primary, shadow, planned, run, shadowRun, rfl⟩ :=
    Mediation.exists_runs_of_numeric_onStore served whole h
  obtain ⟨layout, layoutBinned⟩ := AggregationRequest.plan_of_onStore planned
  refine ⟨plan, shadow, planned, shadowRun, fun overall => ?_, fun binned b hb s hs bound => ?_⟩
  · cases layout overall
    obtain ⟨b, rfl, statsRun⟩ := AggregationRequest.exists_bucket_of_stats run
    obtain ⟨s, rfl, shadowStatsRun⟩ := AggregationRequest.exists_bucket_of_stats shadowRun
    refine ⟨_, s, rfl, rfl, ?_⟩
    rw [limit, Redaction.min_stat]
    exact AggregationRequest.discloses_stats_iff statsRun shadowStatsRun rfl rfl
  · obtain ⟨p, hp, rfl⟩ := List.mem_map.mp hb
    rw [Redaction.lower_stat] at bound
    rw [limit, Redaction.lower_stat]
    exact AggregationRequest.discloses_histogram_iff (layoutBinned binned) run shadowRun hp hs bound

/-- The statistics of the ages of subjects, from a lower bound on or of all. -/
def Sample.ages (start : Option Rat) : AggregationRequest Rat :=
  ⟨"age", none, true, start, none, none, none, none⟩

/-- Two subjects, of which the older one is out of scope: from a given age on, the statistics do not
disclose it. -/
theorem subject_concealed_from_given_age :
    ((Mediation.mk (Sample.context .regular) (Sample.scope ["/a"] ["/b"])).numeric "subject"
        (Sample.ages (some 0)) .all).onStore Sample.mixed =
      .value [⟨some 0, some 30, some 10, some 30, some 20, some 40, -1⟩] ∧
    ∃ b s, [⟨some 0, some 30, some 10, some 30, some 20, some 40, -1⟩] = [b] ∧
      ((Mediation.shadowRequest (Sample.context .regular) (Sample.scope ["/a"] ["/b"])
        (Sample.ages (some 0))).runPlan (Sample.context .regular) "subject" .stats).onStore
          Sample.mixed = .value [s] ∧
      ¬Redaction.Discloses 20 b s := by
  have answered : ((Mediation.mk (Sample.context .regular) (Sample.scope ["/a"] ["/b"])).numeric
      "subject" (Sample.ages (some 0)) .all).onStore Sample.mixed =
        .value [⟨some 0, some 30, some 10, some 30, some 20, some 40, -1⟩] := by
    with_unfolding_all rfl
  obtain ⟨plan, shadow, planned, shadowRun, overall, -⟩ :=
    small_group_disclosed_iff rfl rfl answered
  obtain ⟨b, s, hb, rfl, disclosed⟩ := overall ⟨rfl, rfl⟩
  cases planned
  refine ⟨answered, b, s, hb, shadowRun, fun shown => ?_⟩
  obtain ⟨-, -, unbounded, -⟩ := disclosed.mp shown
  cases unbounded

/-- The same subjects: without a lower bound, the statistics count the one that is out of scope. -/
theorem subject_disclosed_by_least_age :
    (Sample.context .regular).config.validate = .ok () ∧
    (Scope.resolve (Sample.context .regular) (Sample.granting "/a") : Dialogue Rat Scope).onStore
      Sample.mixed = .value (Sample.scope ["/a"] ["/b"]) ∧
    ∃ b s,
      ((Mediation.mk (Sample.context .regular) (Sample.scope ["/a"] ["/b"])).numeric "subject"
        (Sample.ages none) .all).onStore Sample.mixed = .value [b] ∧
      ((Mediation.shadowRequest (Sample.context .regular) (Sample.scope ["/a"] ["/b"])
        (Sample.ages none)).runPlan (Sample.context .regular) "subject" .stats).onStore
          Sample.mixed = .value [s] ∧
      Redaction.Discloses 20 b s := by
  refine ⟨rfl, by with_unfolding_all rfl, ⟨some 10, some 30, some 10, some 30, some 20, some 40, 2⟩,
    ⟨some 30, some 30, some 30, some 30, some 30, some 30, 1⟩, by with_unfolding_all rfl, by with_unfolding_all rfl, ?_⟩
  exact ⟨by decide, by decide, by decide⟩

end TieredSearch
