import TieredSearch.Proofs.Aggregation.Buckets
import TieredSearch.Proofs.Aggregation.Nothing
import TieredSearch.Proofs.Tier.NumericShadow

/-!
# The view of what is out of reach

Asked for the documents out of reach, a regular index runs every aggregation twice under the same
restriction, so that the first result is redacted by itself. Main statement
(`unaccessible_counts_safe`): no count that is shown lies between zero and the limit. What carries it
is that each bucket finds itself, or a smaller bucket with its key, in its own result. A scope that
could not be resolved may be answered without a shadow, but then nothing is accessible and nothing is
counted.
-/

namespace TieredSearch

variable {R : Type} [Scalar R]

/-! ### Results redacted by themselves -/

namespace Redaction

/-- A count from which no small group can be told: suppressed, zero, or not below the limit. -/
def IsSafe (limit count : Int) : Prop := count = suppressedCount ∨ count = 0 ∨ limit ≤ count

theorem isSafe_count {r : Redaction} {n : Int} (counts : 0 ≤ n) : IsSafe r.limit (r.count n n) := by
  rw [count]
  split
  next => exact .inl rfl
  next shown =>
    rw [suppresses_iff] at shown
    by_cases zero : n = 0
    · exact .inr (.inl zero)
    · exact .inr (.inr (by omega))

/-- In a descending list, the count found for a key is the least one. -/
theorem le_of_countOf? {key : String} {buckets : List TermBucket}
    (descending : buckets.Pairwise fun a b => a.key = key → b.key = key → b.count ≤ a.count) {n : Int}
    (found : countOf? key buckets = some n) {b : TermBucket} (hb : b ∈ buckets) (named : b.key = key) :
    n ≤ b.count := by
  obtain ⟨last, first, rfl⟩ := Option.map_eq_some_iff.mp found
  obtain ⟨named', behind, before, split, others⟩ := List.find?_eq_some_iff_append.mp first
  rw [← List.pairwise_reverse, split] at descending
  have hb : b ∈ behind ++ last :: before := split ▸ List.mem_reverse.mpr hb
  rcases List.mem_append.mp hb with hb | hb
  · -- what the search passes by has another key
    exact absurd named (by simpa using others b hb)
  · rcases List.mem_cons.mp hb with rfl | hb
    · exact le_refl _
    · have later := (List.pairwise_cons.mp (List.pairwise_append.mp descending).2.1).1
      exact later b hb named (of_decide_eq_true named')

/-- A listing redacted by itself shows no small count, except of keys that are exempt. -/
theorem isSafe_of_mem_terms {r : Redaction} {missingKey : Option String} {buckets : List TermBucket}
    (listing : IsListing missingKey buckets) (exempt : ∀ key, missingKey = some key → key ∈ r.whitelist)
    {b : TermBucket} (hb : b ∈ r.terms buckets buckets) (counted : b.key ∉ r.whitelist) :
    IsSafe r.limit b.count := by
  obtain ⟨bucket, hbucket, rfl⟩ := List.mem_map.mp hb
  have ordinary : bucket.key ∉ r.whitelist := by
    rw [term] at counted
    split at counted <;> exact counted
  obtain ⟨listed, missing, rfl, descending, counts, rest⟩ := listing
  -- a bucket with this key is among those that count documents
  have inside : ∀ s ∈ listed ++ missing, s.key = bucket.key → s ∈ listed := by
    intro s hs named
    rcases List.mem_append.mp hs with hs | hs
    · exact hs
    · exact absurd (exempt _ (rest s hs)) (named ▸ ordinary)
  obtain ⟨n, found⟩ := exists_countOf?_of_mem hbucket
  obtain ⟨s, hs, named, rfl⟩ := exists_of_countOf? found
  have positive := (counts s (inside s hs named)).1
  have least : s.count ≤ bucket.count := by
    refine le_of_countOf? ?_ found hbucket rfl
    refine List.pairwise_append.mpr ⟨descending.imp fun le _ _ => le, ?_, fun a _ b hb _ named' => ?_⟩
    · refine List.pairwise_of_forall_mem_list fun a ha b _ named' _ => ?_
      exact absurd (exempt _ (rest a ha)) (named' ▸ ordinary)
    · exact absurd (exempt _ (rest b hb)) (named' ▸ ordinary)
  rw [term]
  split
  next => exact .inl rfl
  next shown =>
    have enough : ¬(0 < s.count ∧ s.count < r.limit) := by
      intro small
      apply shown
      rw [found, Option.any_some, suppresses_iff.mpr small, isWhitelisted]
      simpa using ordinary
    exact .inr (.inr (by omega))

/-- Each bucket that counts something is paired with a bucket of the same count. -/
def PairsItself (buckets : List (StatBucket R)) : Prop :=
  ∀ b ∈ buckets, 0 ≤ b.count ∧ (0 < b.count → ∃ s,
    buckets.find? (fun s => sameBound s.lower b.lower) = some s ∧ s.count = b.count)

/-- Statistics redacted by themselves show no small count. -/
theorem isSafe_of_mem_stats {r : Redaction} {buckets : List (StatBucket R)} (pairs : PairsItself buckets)
    {b : StatBucket R} (hb : b ∈ r.stats buckets buckets) : IsSafe r.limit b.count := by
  obtain ⟨bucket, hbucket, rfl⟩ := List.mem_map.mp hb
  obtain ⟨counts, paired⟩ := pairs bucket hbucket
  by_cases zero : bucket.count = 0
  · rw [stat]
    split
    next s _ =>
      rw [count, zero]
      split
      · exact .inl rfl
      · exact .inr (.inl rfl)
    next => exact .inr (.inl zero)
  · obtain ⟨s, found, same⟩ := paired (by omega)
    rw [stat, found]
    simp only [same]
    exact isSafe_count counts

end Redaction

/-- In exact arithmetic, the buckets of a numeric aggregation on a store pair with themselves. -/
theorem AggregationRequest.pairsItself_of_runPlan [Scalar.FiniteRefl R] [Scalar.SeparatesBins R]
    {ctx : Context} {index : String} {req other : AggregationRequest R} {st : Store R}
    {plan : NumericPlan R} {buckets : List (StatBucket R)}
    (planned : (other.plan ctx index).onStore st = .value plan)
    (run : (req.runPlan ctx index plan).onStore st = .value buckets) :
    Redaction.PairsItself buckets := by
  intro b hb
  refine ⟨count_nonneg_of_runPlan run b hb, fun positive => ?_⟩
  have itself (finite : ∀ x, b.lower = some x → Scalar.isFinite x = true) :
      Redaction.sameBound b.lower b.lower = true := by
    cases lower : b.lower with
    | none => rfl
    | some x => exact Scalar.FiniteRefl.eq_self (finite x lower)
  cases plan with
  | stats =>
    obtain ⟨bucket, rfl, stats⟩ := exists_bucket_of_stats run
    cases List.mem_singleton.mp hb
    obtain ⟨n, count, -, finite⟩ := exists_count_of_stats_onStore stats
    exact ⟨b, by simp [itself (finite (by omega))], rfl⟩
  | histogram start step =>
    have lays : (NumericPlan.histogram start step).Lays := by
      refine (plan_of_onStore planned).2 fun overall => ?_
      cases (plan_of_onStore planned).1 overall
    obtain ⟨field, placed, bins⟩ := exists_bin_of_histogram_onStore run
    obtain ⟨k, read⟩ := bins b hb
    obtain ⟨lower, -, finite⟩ := StatBucket.bound_of_ofBin read
    have bound : Redaction.sameBound b.lower b.lower = true := by
      refine itself fun x bounded => ?_
      cases lower.symm.trans bounded
      exact finite
    obtain ⟨s, found⟩ : ∃ s, buckets.find? (fun s => Redaction.sameBound s.lower b.lower) = some s :=
      Option.isSome_iff_exists.mp (List.find?_isSome.mpr ⟨b, hb, bound⟩)
    have same : s = b := eq_of_sameBound lays run run hb (List.mem_of_find?_eq_some found)
      (by simpa using List.find?_some found) hb bound
    exact ⟨s, found, by rw [same]⟩
  | empty =>
    cases run
    cases hb

/-! ### Decisions -/

namespace Decision

variable {ctx : Context} {index : String} {scope : Scope} {req : TierRequest R} {st : Store R}

/-- Asked for what is out of reach, a regular index runs a request under one restriction twice. Only
for a scope that could not be resolved it may restrict the request to accessible documents instead. -/
theorem eq_unaccessibleOnly_or_of_make (served : ctx.config.effectiveLevel index = some .regular)
    (asked : req.accessibility = .unaccessible) (counts : req.rawData = false) {decision : Decision R}
    (made : (make ctx scope index req).onStore st = .value decision) :
    decision = .unaccessibleOnly ctx scope ∨
      decision = .accessibleOnly scope ∧ scope.isDegraded = true ∧
        ∃ s f, ctx.schema index = .ok s ∧ s.field? scope.authField = some f := by
  cases known : ctx.schema index with
  | error e =>
    rw [make, level_eq_error known] at made
    cases made
  | ok s =>
    rw [make_of_regular (level_eq_ok known served), Dialogue.onStore_bind,
      Outcome.bind_eq_value_iff] at made
    obtain ⟨paths, listed, made⟩ := made
    rw [Dialogue.onStore_ofExcept, Outcome.ofExcept_eq_value_iff] at made
    by_cases settled : paths.isEmpty = true ∨ scope.isDegraded = false
    · rw [regular_of_unaccessible counts settled asked] at made
      cases made
      exact .inl rfl
    · obtain ⟨beyond, whole⟩ := not_or.mp settled
      have degraded : scope.isDegraded = true := Bool.not_eq_false _ ▸ whole
      rw [regular_of_isDegraded degraded counts beyond] at made
      cases made
      -- the listing has found the field
      rw [Scope.outOfScope, Dialogue.onStore_bind, Outcome.bind_eq_value_iff] at listed
      obtain ⟨buckets, run, -⟩ := listed
      obtain ⟨plan, planned⟩ := TermsRequest.exists_plan_of_run_onStore run
      obtain ⟨s', f, -, known', found, -⟩ := TermsRequest.plan_eq_ok_iff.mp planned
      cases known.symm.trans known'
      exact .inr ⟨rfl, degraded, s, f, rfl, found⟩

end Decision

namespace Mediation

variable {ctx : Context} {index : String} {scope : Scope} {req : TierRequest R} {st : Store R}
  {α β : Type} {seconds : Nat} {fault : BackendFault} {redact : α → α → α} {answer : α}
  {layout : Option (Filter R) → Dialogue R β} {operation : β → Option (Filter R) → Dialogue R α}

/-- Asked for what is out of reach, an operation on a store comes to a result redacted by itself. Only
for a scope that could not be resolved it may come to the plain result of what is accessible. -/
theorem exists_run_of_unaccessible (served : ctx.config.effectiveLevel index = some .regular)
    (asked : req.accessibility = .unaccessible) (counts : req.rawData = false)
    (h : ((Decision.make ctx scope index req).bind
      (decided seconds fault redact layout operation)).onStore st = .value answer) :
    ∃ restriction plan primary, (layout restriction).onStore st = .value plan ∧
      (operation plan restriction).onStore st = .value primary ∧
      (answer = redact primary primary ∨
        answer = primary ∧ restriction = some scope.accessibleMembership ∧ scope.isDegraded = true ∧
          ∃ s f, ctx.schema index = .ok s ∧ s.field? scope.authField = some f) := by
  rw [Dialogue.onStore_bind, Outcome.bind_eq_value_iff] at h
  obtain ⟨decision, made, h⟩ := h
  obtain ⟨plan, laid, primary, between, laying, first, rest⟩ :=
    exists_run_of_decided (Dialogue.yields_store_iff.mpr ⟨h, rfl⟩)
  obtain ⟨planned, rfl⟩ := Dialogue.yields_store_iff.mp laying
  obtain ⟨run, rfl⟩ := Dialogue.yields_store_iff.mp first
  refine ⟨_, plan, primary, planned, run, ?_⟩
  rcases Decision.eq_unaccessibleOnly_or_of_make served asked counts made with
    rfl | ⟨rfl, degraded, found⟩
  · -- the second run is the first one again
    obtain ⟨shadow, second, rfl⟩ := rest
    obtain ⟨again, -⟩ := Dialogue.yields_store_iff.mp second
    cases run.symm.trans again
    exact .inl rfl
  · exact .inr ⟨rest.1, rfl, degraded, found⟩

end Mediation

/-! ### Scopes that could not be resolved -/

/-- The restriction to accessible documents lets nothing through if nothing is accessible. -/
theorem Scope.excludes_accessibleMembership {ctx : Context} {index : String} {scope : Scope} {s : Schema}
    {f : Field} (nothing : scope.accessible = []) (known : ctx.schema index = .ok s)
    (found : s.field? scope.authField = some f) (st : Store R) (user own : Option (Filter R))
    (excludeField : Option String) (filterSelf : Bool) :
    ctx.Excludes st index user excludeField filterSelf
      (Filter.both own (some scope.accessibleMembership)) := by
  intro query compiled
  rw [Context.compileFilter_eq known, accessibleMembership_eq (by simp [nothing]), nothing] at compiled
  refine List.filter_eq_nil_iff.mpr fun doc _ => ?_
  rw [Filter.not_admits_of_compile_isIn_nil (t := ⟨s, _, _⟩) found compiled doc]
  exact Bool.false_ne_true

/-! ### What is shown -/

/-- Asked for what is out of reach, a regular index shows no small count, whatever scope was resolved
from whatever backend: term counts of keys that are not exempt, the counts of statistics and
histograms, and totals are suppressed, zero, or not below the limit. -/
theorem unaccessible_counts_safe [Scalar.FiniteRefl R] [Scalar.SeparatesBins R] {ctx : Context}
    {index : String} (served : ctx.config.effectiveLevel index = some .regular)
    {grants : Except (List String) GrantTable} {σ : Type} {serve : Search R → σ → Reply R × σ}
    {state after : σ} {scope : Scope}
    (resolved : (Scope.resolve ctx grants : Dialogue R Scope).Yields serve state scope after)
    (st : Store R) :
    (∀ (req : AggregationRequest R) answer,
      ((Mediation.mk ctx scope).terms index req .unaccessible).onStore st = .value answer →
        ∀ b ∈ answer, b.key ∉ (Redaction.ofConfig ctx.config).whitelist →
          Redaction.IsSafe (ctx.config.tier.limit.getD 0) b.count) ∧
    (∀ (req : AggregationRequest R) answer,
      ((Mediation.mk ctx scope).numeric index req .unaccessible).onStore st = .value answer →
        ∀ b ∈ answer, Redaction.IsSafe (ctx.config.tier.limit.getD 0) b.count) ∧
    (∀ (filter : Option (Filter R)) answer,
      ((Mediation.mk ctx scope).total index filter .unaccessible).onStore st = .value answer →
        Redaction.IsSafe (ctx.config.tier.limit.getD 0) answer) := by
  have nothing := Scope.accessible_eq_nil_of_resolve resolved
  refine ⟨fun req answer h => ?_, fun req answer h => ?_, fun filter answer h => ?_⟩
  · rw [Mediation.terms_eq] at h
    obtain ⟨restriction, plan, primary, -, run, rfl | ⟨rfl, rfl, degraded, s, f, known, found⟩⟩ :=
      Mediation.exists_run_of_unaccessible served rfl rfl h
    · have exempt (key : String) (aliased : ctx.missingAlias = some key) :
          key ∈ (Redaction.ofConfig ctx.config).whitelist :=
        List.mem_append_right _ (Option.mem_toList.mpr aliased)
      intro b hb counted
      exact Redaction.isSafe_of_mem_terms (TermsRequest.isListing_of_run_onStore run) exempt hb counted
    · have excluded := Scope.excludes_accessibleMembership (nothing degraded) known found st req.filter
        req.authFilter (some req.field) req.filterSelf
      rw [TermsRequest.eq_nil_of_run_onStore excluded run]
      simp
  · rw [Mediation.numeric_eq, Dialogue.onStore_bind, Outcome.bind_eq_value_iff] at h
    obtain ⟨-, -, h⟩ := h
    obtain ⟨restriction, plan, primary, planned, run, rfl | ⟨rfl, rfl, degraded, s, f, known, found⟩⟩ :=
      Mediation.exists_run_of_unaccessible served rfl rfl h
    · intro b hb
      exact Redaction.isSafe_of_mem_stats (AggregationRequest.pairsItself_of_runPlan planned run) hb
    · have excluded := Scope.excludes_accessibleMembership (nothing degraded) known found st req.filter
        req.authFilter (some req.field) req.filterSelf
      intro b hb
      exact .inr (.inl (AggregationRequest.count_eq_zero_of_runPlan excluded run b hb))
  · rw [Mediation.total_eq] at h
    obtain ⟨restriction, plan, primary, -, run, rfl | ⟨rfl, rfl, degraded, s, f, known, found⟩⟩ :=
      Mediation.exists_run_of_unaccessible served rfl rfl h
    · obtain ⟨query, -, rfl⟩ := exists_selected_of_totalCount run
      exact Redaction.isSafe_count (Int.natCast_nonneg _)
    · have excluded := Scope.excludes_accessibleMembership (nothing degraded) known found st filter
        none none true
      exact .inr (.inl (eq_zero_of_totalCount excluded run))

/-- Two subjects, of which the older one is out of reach: its statistics do not show that it is the
only one. -/
theorem single_subject_not_shown :
    ((Mediation.mk (Sample.context .regular) (Sample.scope ["/a"] ["/b"])).numeric "subject"
        (Sample.ages none) .unaccessible).onStore Sample.mixed =
      .value [⟨some 30, some 30, some 30, some 30, some 30, some 30, suppressedCount⟩] ∧
    ∀ b ∈ ([⟨some 30, some 30, some 30, some 30, some 30, some 30, suppressedCount⟩] : List (StatBucket Rat)),
      Redaction.IsSafe 20 b.count := by
  have resolved : (Scope.resolve (Sample.context .regular) (Sample.granting "/a") :
      Dialogue Rat Scope).Yields Backend.serve (.store Sample.mixed false) (Sample.scope ["/a"] ["/b"])
        (.store Sample.mixed false) :=
    Dialogue.yields_store_iff.mpr ⟨by with_unfolding_all rfl, rfl⟩
  have answered : ((Mediation.mk (Sample.context .regular) (Sample.scope ["/a"] ["/b"])).numeric "subject"
      (Sample.ages none) .unaccessible).onStore Sample.mixed =
        .value [⟨some 30, some 30, some 30, some 30, some 30, some 30, suppressedCount⟩] := by
    with_unfolding_all rfl
  have served : (Sample.context .regular).config.effectiveLevel "subject" = some .regular := rfl
  exact ⟨answered, (unaccessible_counts_safe served resolved Sample.mixed).2.1 _ _ answered⟩

end TieredSearch
