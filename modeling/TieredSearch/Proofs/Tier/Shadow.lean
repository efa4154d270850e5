import TieredSearch.Proofs.Scope.Membership
import TieredSearch.Proofs.Tier.Decision
import TieredSearch.Tier.Mediation

/-!
# Shadows

Where all of a regular index is asked for, an operation runs twice, and the second run is the
shadow of the first: the same operation, restricted in addition to the documents out of reach
(`Decision.compileFilter_shadow`). Against any backend, the paths out of scope are listed first, then
the one run follows the other (`Mediation.exists_runs_of_yields`).
-/

namespace TieredSearch

variable {R : Type} [Scalar R]

/-! ### What is suppressed -/

namespace Redaction

theorem suppresses_iff {r : Redaction} {shadow : Int} :
    r.suppresses shadow = true ↔ 0 < shadow ∧ shadow < r.limit := by
  simp [suppresses]

/-- The count found for a key is that of a bucket with the key. -/
theorem exists_of_countOf? {key : String} {buckets : List TermBucket} {n : Int}
    (h : countOf? key buckets = some n) : ∃ b ∈ buckets, b.key = key ∧ b.count = n := by
  obtain ⟨b, found, counted⟩ := Option.map_eq_some_iff.mp h
  have named : b.key = key := by simpa using List.find?_some found
  exact ⟨b, List.mem_reverse.mp (List.mem_of_find?_eq_some found), named, counted⟩

/-- For the key of a bucket, a count is found. -/
theorem exists_countOf?_of_mem {buckets : List TermBucket} {b : TermBucket} (h : b ∈ buckets) :
    ∃ n, countOf? b.key buckets = some n := by
  have found : (buckets.reverse.find? (·.key = b.key)).isSome = true :=
    List.find?_isSome.mpr ⟨b, List.mem_reverse.mpr h, decide_eq_true rfl⟩
  exact Option.isSome_iff_exists.mp (by rwa [countOf?, Option.isSome_map])

end Redaction

/-! ### The restriction of the shadow -/

/-- In the schema of an index, the field that holds the paths of a scope is one of texts outside nested
objects. -/
def Scope.Rooted (scope : Scope) (ctx : Context) (index : String) : Prop :=
  ∀ s, ctx.schema index = .ok s → ∃ f, s.field? scope.authField = some f ∧ f.kind = .text ∧ f.nestedPath = []

namespace Decision

variable {ctx : Context} {index : String} {scope : Scope}

/-- Where the paths of a scope lie outside nested objects, the shadow of a run admits what the run
admits and the restriction to documents out of reach selects, whatever else the request brings
along. -/
theorem compileFilter_shadow_of_rooted (rooted : scope.Rooted ctx index) (user : Option (Filter R))
    (excludeField : Option String) (filterSelf : Bool) (own : Option (Filter R)) :
    Agree (fun before after => ∀ doc, Query.admits after doc = (Query.admits before doc &&
        (scope.membershipClause ctx.missingAlias scope.unaccessible : Query R).selects doc))
      (ctx.compileFilter index user excludeField filterSelf (Filter.both own (sensitiveExclusion ctx scope)))
      (ctx.compileFilter index user excludeField filterSelf (Filter.both own
        (some (Filter.narrowedBy (sensitiveExclusion ctx scope) scope.unaccessibleMembership)))) := by
  cases known : ctx.schema index with
  | error e =>
    rw [Context.compileFilter, Context.compileFilter, Context.target, known]
    exact .error e
  | ok s =>
    obtain ⟨f, found, text, root⟩ := rooted s known
    rw [Context.compileFilter_eq known, Context.compileFilter_eq known]
    have membership (paths : List String) := Scope.atRoot_membership (R := R)
      (t := ⟨s, ctx.missingAlias, ctx.config.aggregation.analyzedSuffix⟩) found text root paths
    rw [sensitiveExclusion]
    cases ctx.config.tier.sensitiveField with
    | none =>
      rw [Option.map_none, Filter.both_none]
      exact Filter.compile_both (membership _).compiled (membership _).scopes user excludeField filterSelf own
    | some name =>
      refine Filter.compile_narrowed ?_ (membership scope.unaccessible) user excludeField filterSelf own
      rw [Filter.nestedScopes, Filter.nestedScopesAll, Scope.accessibleMembership,
        (membership scope.accessible).scopes, Filter.sharedScopes_root]

/-- The same on an index whose paths lie outside nested objects. -/
theorem compileFilter_shadow (rooted : ctx.Rooted index)
    (auth : scope.authField = ctx.config.aggregation.authField) (user : Option (Filter R))
    (excludeField : Option String) (filterSelf : Bool) (own : Option (Filter R)) :
    Agree (fun before after => ∀ doc, Query.admits after doc = (Query.admits before doc &&
        (scope.membershipClause ctx.missingAlias scope.unaccessible : Query R).selects doc))
      (ctx.compileFilter index user excludeField filterSelf (Filter.both own (sensitiveExclusion ctx scope)))
      (ctx.compileFilter index user excludeField filterSelf (Filter.both own
        (some (Filter.narrowedBy (sensitiveExclusion ctx scope) scope.unaccessibleMembership)))) :=
  compileFilter_shadow_of_rooted (fun s known => auth ▸ rooted s known) user excludeField filterSelf own

end Decision

/-! ### Two runs -/

namespace Mediation

variable {ctx : Context} {index : String} {scope : Scope}

/-- The request that the shadow of an aggregation answers: that of the documents out of scope. -/
def shadowRequest (ctx : Context) (scope : Scope) (req : AggregationRequest R) :
    AggregationRequest R :=
  req.restricted (some (Filter.narrowedBy (Decision.sensitiveExclusion ctx scope)
    scope.unaccessibleMembership))

variable {σ α β : Type} {serve : Search R → σ → Reply R × σ} {state after : σ} {seconds : Nat}
    {fault : BackendFault} {redact : α → α → α} {answer : α}

/-- An operation that is decided on: it is laid out and run under the restriction of the decision, run
once more under that of the shadow if there is one, and redacted. -/
def decided (seconds : Nat) (fault : BackendFault) (redact : α → α → α)
    (layout : Option (Filter R) → Dialogue R β) (operation : β → Option (Filter R) → Dialogue R α)
    (decision : Decision R) : Dialogue R α :=
  (((layout decision.scopeFilter).bind fun plan => pair decision (operation plan)).bounded
    seconds fault).bind fun results => .done (.value (redacted redact results))

theorem terms_eq (m : Mediation) (index : String) (req : AggregationRequest R)
    (accessibility : Accessibility) :
    m.terms index req accessibility = (m.decideAggregation index req accessibility).bind
      (decided m.ctx.timeLimit .mediationTimedOut m.redaction.terms (fun _ => .done (.value ()))
        fun _ restriction => (req.restricted restriction).terms m.ctx index) := rfl

theorem numeric_eq (m : Mediation) (index : String) (req : AggregationRequest R)
    (accessibility : Accessibility) :
    m.numeric index req accessibility = (Dialogue.ofExcept req.validate).bind fun _ =>
      (m.decideAggregation index req accessibility).bind
        (decided m.ctx.timeLimit .mediationTimedOut m.redaction.stats
          (fun restriction => (req.restricted restriction).plan m.ctx index)
          fun plan restriction => (req.restricted restriction).runPlan m.ctx index plan) := rfl

theorem total_eq (m : Mediation) (index : String) (filter : Option (Filter R))
    (accessibility : Accessibility) :
    m.total index filter accessibility =
      (Decision.make m.ctx m.scope index ⟨filter, none, true, accessibility, false⟩).bind
        (decided m.ctx.timeLimit .mediationTimedOut m.redaction.count (fun _ => .done (.value ()))
          fun _ restriction => totalCount m.ctx index filter restriction) := rfl

variable {layout : Option (Filter R) → Dialogue R β} {operation : β → Option (Filter R) → Dialogue R α}

omit [Scalar R] in
/-- What a decided operation yields is the first of two runs redacted by the second, or the only run
if there is no shadow. -/
theorem exists_run_of_decided {decision : Decision R}
    (h : (decided seconds fault redact layout operation decision).Yields serve state answer after) :
    ∃ plan laid primary between, (layout decision.scopeFilter).Yields serve state plan laid ∧
      (operation plan decision.scopeFilter).Yields serve laid primary between ∧
      match decision.shadowFilter with
      | none => answer = primary ∧ after = between
      | some restriction => ∃ shadow, (operation plan (some restriction)).Yields serve between shadow after ∧
          answer = redact primary shadow := by
  obtain ⟨results, finish, run, same⟩ := Dialogue.yields_bind.mp h
  cases same.1
  cases same.2
  rw [Dialogue.yields_bounded] at run
  obtain ⟨plan, laid, laying, run⟩ := Dialogue.yields_bind.mp run
  rw [pair] at run
  cases shadowed : decision.shadowFilter with
  | none =>
    rw [shadowed] at run
    obtain ⟨primary, finish, first, paired⟩ := Dialogue.yields_bind.mp run
    cases paired.1
    cases paired.2
    exact ⟨plan, laid, primary, _, laying, first, rfl, rfl⟩
  | some restriction =>
    rw [shadowed] at run
    obtain ⟨⟨primary, shadow⟩, finish, both, paired⟩ := Dialogue.yields_bind.mp run
    cases paired.1
    cases paired.2
    obtain ⟨between, first, second⟩ := Dialogue.yields_both.mp both
    exact ⟨plan, laid, primary, between, laying, first, shadow, second, rfl⟩

/-- Asked for all of a regular index, an operation yields the first of two runs redacted by the
second, after a listing of the paths out of scope, whatever that says. -/
theorem exists_runs_of_yields (served : ctx.config.effectiveLevel index = some .regular)
    (whole : scope.isDegraded = false) {req : TierRequest R} (asked : req.accessibility = .all)
    (counts : req.rawData = false)
    (h : ((Decision.make ctx scope index req).bind
      (decided seconds fault redact layout operation)).Yields serve state answer after) :
    ∃ paths listed plan laid primary between shadow,
      (scope.outOfScope ctx index req.filter req.excludeField req.filterSelf).Yields serve state paths listed ∧
      (layout (Decision.sensitiveExclusion ctx scope)).Yields serve listed plan laid ∧
      (operation plan (Decision.sensitiveExclusion ctx scope)).Yields serve laid primary between ∧
      (operation plan (some (Filter.narrowedBy (Decision.sensitiveExclusion ctx scope)
        scope.unaccessibleMembership))).Yields serve between shadow after ∧
      answer = redact primary shadow := by
  obtain ⟨decision, listed, made, h⟩ := Dialogue.yields_bind.mp h
  obtain ⟨paths, listing, rfl⟩ := Decision.exists_listing_of_yields served asked counts whole made
  obtain ⟨plan, laid, primary, between, laying, first, shadow, second, redacted⟩ := exists_run_of_decided h
  exact ⟨paths, listed, plan, laid, primary, between, shadow, listing, laying, first, second, redacted⟩

end Mediation

end TieredSearch
