import TieredSearch.Tier.Mediation
import TieredSearch.Proofs.Aggregation.Numeric

/-!
# Mediated calls

The four operations of a `Mediation` as one type, so that what holds of every mediated call can be
said once. A call is decided on, and then runs under the restriction of the decision
(`Mediation.answer_eq`); without a shadow it is the plain operation under that restriction
(`Mediation.act_of_unshadowed`). How a call goes depends on its restriction only by way of the
queries that the filters compile to: `Call.under_alike` compares a call under two restrictions.
-/

namespace TieredSearch

variable {R : Type}

/-- A mediated call. -/
inductive Call (R : Type) where
  /-- Counts of terms. -/
  | terms (req : AggregationRequest R)
  /-- Statistics or a histogram. -/
  | numeric (req : AggregationRequest R)
  /-- A total. -/
  | total (filter : Option (Filter R))
  /-- Rows. -/
  | rows (req : RowRequest R)

/-- The answer to a call. -/
inductive Answer (R : Type) where
  /-- Counts of terms. -/
  | terms (buckets : List TermBucket)
  /-- Statistics or a histogram. -/
  | numeric (buckets : List (StatBucket R))
  /-- A total. -/
  | total (count : Int)
  /-- Rows. -/
  | rows (rows : List (Json R))

namespace Call

/-- The caller's filter. -/
def filter : Call R → Option (Filter R)
  | .terms req | .numeric req => req.filter
  | .total filter => filter
  | .rows req => req.filter

/-- The field whose own leaves are left out of the filter. -/
def excludeField : Call R → Option String
  | .terms req | .numeric req => some req.field
  | .total _ | .rows _ => none

/-- Whether they count nevertheless. -/
def filterSelf : Call R → Bool
  | .terms req | .numeric req => req.filterSelf
  | .total _ | .rows _ => true

/-- The restriction a call brings along. -/
def restriction : Call R → Option (Filter R)
  | .terms req | .numeric req => req.authFilter
  | .total _ => none
  | .rows req => req.scope

/-- Whether rows are asked for. -/
def isRaw : Call R → Bool
  | .rows _ => true
  | _ => false

/-- What is known of a call before it is run. -/
def tierRequest (call : Call R) (accessibility : Accessibility) : TierRequest R where
  filter := call.filter
  excludeField := call.excludeField
  filterSelf := call.filterSelf
  accessibility := accessibility
  rawData := call.isRaw

variable [Scalar R]

/-- Refuses arguments that contradict each other. -/
def validate : Call R → Except QueryError Unit
  | .numeric req => req.validate
  | _ => .ok ()

/-- The plain operation under a restriction. -/
def under (ctx : Context) (index : String) (scope : Option (Filter R)) :
    Call R → Dialogue R (Answer R)
  | .terms req => ((req.restricted scope).terms ctx index).map .terms
  | .numeric req => ((req.restricted scope).numeric ctx index).map .numeric
  | .total filter => (totalCount ctx index filter scope).map .total
  | .rows req => ({ req with scope := Filter.both req.scope scope }.run ctx index).map .rows

/-- The plain operation within the time limit of a mediated call; rows have none. -/
def limited (ctx : Context) (index : String) (scope : Option (Filter R)) (call : Call R) :
    Dialogue R (Answer R) :=
  if call.isRaw then call.under ctx index scope
  else (call.under ctx index scope).bounded ctx.timeLimit .mediationTimedOut

end Call

namespace Mediation

variable [Scalar R]

/-- The answer to a call as the caller may see it. -/
def answer (m : Mediation) (index : String) (accessibility : Accessibility) :
    Call R → Dialogue R (Answer R)
  | .terms req => (m.terms index req accessibility).map .terms
  | .numeric req => (m.numeric index req accessibility).map .numeric
  | .total filter => (m.total index filter accessibility).map .total
  | .rows req => (m.rows index req accessibility).map .rows

/-- A call as it is mediated for a caller with these grants: the scope is resolved first. -/
def session (ctx : Context) (grants : Except (List String) GrantTable) (index : String)
    (accessibility : Accessibility) (call : Call R) : Dialogue R (Answer R) :=
  (Scope.resolve ctx grants).bind fun scope =>
    (Mediation.mk ctx scope).answer index accessibility call

/-- What a call does once it is decided on. -/
def act (m : Mediation) (index : String) (decision : Decision R) : Call R → Dialogue R (Answer R)
  | .terms req =>
    ((pair decision fun scope => (req.restricted scope).terms m.ctx index).bounded
      m.ctx.timeLimit .mediationTimedOut).map fun results => .terms (redacted m.redaction.terms results)
  | .numeric req =>
    ((((req.restricted decision.scopeFilter).plan m.ctx index).bind fun plan =>
      pair decision fun scope => (req.restricted scope).runPlan m.ctx index plan).bounded
        m.ctx.timeLimit .mediationTimedOut).map fun results => .numeric (redacted m.redaction.stats results)
  | .total filter =>
    ((pair decision fun scope => totalCount m.ctx index filter scope).bounded
      m.ctx.timeLimit .mediationTimedOut).map fun results => .total (redacted m.redaction.count results)
  | .rows req => ({ req with scope := Filter.both req.scope decision.scopeFilter }.run m.ctx index).map .rows

/-- A call is checked, decided on and carried out. -/
theorem answer_eq (m : Mediation) (index : String) (accessibility : Accessibility) (call : Call R) :
    m.answer index accessibility call =
      (Dialogue.ofExcept call.validate).bind fun _ =>
        (Decision.make m.ctx m.scope index (call.tierRequest accessibility)).bind fun decision =>
          m.act index decision call := by
  cases call with
  | terms req => exact (Dialogue.bind_map _ _ _).trans (congrArg _ (funext fun _ => Dialogue.bind_map _ _ _))
  | numeric req =>
    refine (Dialogue.bind_map _ _ _).trans (congrArg _ (funext fun _ => ?_))
    exact (Dialogue.bind_map _ _ _).trans (congrArg _ (funext fun _ => Dialogue.bind_map _ _ _))
  | total filter => exact (Dialogue.bind_map _ _ _).trans (congrArg _ (funext fun _ => Dialogue.bind_map _ _ _))
  | rows req => exact Dialogue.bind_map _ _ _

theorem answer_onStore (m : Mediation) (index : String) (accessibility : Accessibility) (call : Call R)
    (st : Store R) :
    (m.answer index accessibility call).onStore st =
      (Outcome.ofExcept call.validate).bind fun _ =>
        ((Decision.make m.ctx m.scope index (call.tierRequest accessibility)).onStore st).bind fun decision =>
          (m.act index decision call).onStore st := by
  simp only [answer_eq, Dialogue.onStore_bind, Dialogue.onStore_ofExcept]

omit [Scalar R] in
theorem pair_of_unshadowed {α : Type} {decision : Decision R} (h : decision.shadowFilter = none)
    (operation : Option (Filter R) → Dialogue R α) :
    pair decision operation =
      (operation decision.scopeFilter).map fun primary => (primary, none) := by
  rw [pair, h]
  rfl

/-- Without a shadow a call is the plain operation under the restriction of the decision. -/
theorem act_of_unshadowed (m : Mediation) (index : String) {decision : Decision R}
    (h : decision.shadowFilter = none) (call : Call R) :
    m.act index decision call = call.limited m.ctx index decision.scopeFilter := by
  cases call with
  | terms req =>
    simp only [act, pair_of_unshadowed h, Dialogue.bounded_map, Dialogue.map_map]
    exact (Dialogue.bounded_map _ _ _ _).symm
  | numeric req =>
    simp only [act, pair_of_unshadowed h, ← Dialogue.bind_map, Dialogue.bounded_map,
      Dialogue.map_map]
    exact (Dialogue.bounded_map _ _ _ _).symm
  | total filter =>
    simp only [act, pair_of_unshadowed h, Dialogue.bounded_map, Dialogue.map_map]
    exact (Dialogue.bounded_map _ _ _ _).symm
  | rows req => rfl

end Mediation

/-! ### One call under two restrictions -/

/-- Both searches ask one index for the same, and their queries are related. -/
def Search.Rel (index : String) (rel : Option (Query R) → Option (Query R) → Prop)
    (s s' : Search R) : Prop :=
  s.index = index ∧ s'.index = index ∧ s.purpose = s'.purpose ∧ rel s.query s'.query

/-- An answer shows nothing of a store but the documents it selects. -/
theorem Store.answer_congr [Scalar R] {st st' : Store R} {s s' : Search R}
    (purpose : s.purpose = s'.purpose)
    (selected : st.selected s.index s.query = st'.selected s'.index s'.query) :
    st.answer s = st'.answer s' := by
  simp only [Store.answer, purpose, selected]

variable [Scalar R] {ctx : Context} {index : String}
    {rel : Option (Query R) → Option (Query R) → Prop}

namespace TermsRequest

/-- The pages of two plans that differ in their query go the same way. -/
theorem Plan.pages_alike {f : Field} {pageSize : Nat} {missingKey : Option String}
    {q q' : Option (Query R)}
    (related : rel q q') (patience : Nat) (after : Option (Json R)) (tally : TermTally) :
    ((⟨index, f, q, pageSize, missingKey⟩ : Plan R).pages patience after tally).Alike (Search.Rel index rel)
      ((⟨index, f, q', pageSize, missingKey⟩ : Plan R).pages patience after tally) := by
  induction patience generalizing after tally with
  | zero => exact .done _
  | succ patience ih =>
    refine Dialogue.Alike.bind (Dialogue.Alike.searchReading _ ⟨rfl, rfl, rfl, related⟩) fun (tally, cursor) => ?_
    cases cursor with
    | none => exact .done _
    | some next => exact ih (some next) tally

theorem run_alike {req : TermsRequest R} {extra : Option (Filter R)}
    (compiled : Agree rel (ctx.compileFilter index req.filter req.excludeField req.filterSelf req.extra)
      (ctx.compileFilter index req.filter req.excludeField req.filterSelf extra)) :
    (req.run ctx index).Alike (Search.Rel index rel) ({ req with extra := extra }.run ctx index) := by
  have planned : Agree (fun p p' => ∃ f q q', rel q q' ∧
      p = ⟨index, f, q, ctx.config.aggregation.pageSize, req.missingKey⟩ ∧
      p' = ⟨index, f, q', ctx.config.aggregation.pageSize, req.missingKey⟩)
      (req.plan ctx index) ({ req with extra := extra }.plan ctx index) := by
    refine (Agree.refl (fun _ => rfl) (ctx.schema index)).bind fun s s' hs => ?_
    subst hs
    refine (Agree.refl (fun _ => rfl) (s.aggregated req.field)).bind fun f f' hf => ?_
    subst hf
    exact compiled.bind fun q q' related => .ok ⟨f, q, q', related, rfl, rfl⟩
  refine .bounded _ _ (planned.alike ?_)
  rintro p p' ⟨f, q, q', related, rfl, rfl⟩
  exact (Plan.pages_alike related _ _ _).bind fun tally => .done _

end TermsRequest

namespace AggregationRequest

variable {req : AggregationRequest R} {x x' : Option (Filter R)}
  (closed : ∀ q q', rel q q' → ∀ clauses,
    rel (Query.conjunction? (q.toList ++ clauses)) (Query.conjunction? (q'.toList ++ clauses)))
  (compiled : Agree rel
    (ctx.compileFilter index req.filter (some req.field) req.filterSelf (Filter.both req.authFilter x))
    (ctx.compileFilter index req.filter (some req.field) req.filterSelf (Filter.both req.authFilter x')))

include closed compiled

theorem boundedQuery_agree (f : Field) (start : Option R) :
    Agree rel ((req.restricted x).boundedQuery ctx index f start)
      ((req.restricted x').boundedQuery ctx index f start) :=
  compiled.bind fun q q' related => .ok (closed q q' related _)

theorem stats_alike :
    ((req.restricted x).stats ctx index).Alike (Search.Rel index rel) ((req.restricted x').stats ctx index) := by
  have searched : Agree (fun a a' => a.1 = a'.1 ∧ Search.Rel index rel a.2 a'.2)
      ((req.restricted x).statsSearch ctx index) ((req.restricted x').statsSearch ctx index) := by
    refine (Agree.refl (fun _ => rfl) req.validate).bind fun _ _ _ => ?_
    refine (Agree.refl (fun _ => rfl) (ctx.schema index)).bind fun s s' hs => ?_
    subst hs
    refine (Agree.refl (fun _ => rfl) (s.aggregatedNumeric req.field)).bind fun f f' hf => ?_
    subst hf
    exact (boundedQuery_agree closed compiled f req.rangeStart).bind fun q q' related =>
      .ok ⟨rfl, rfl, rfl, rfl, related⟩
  refine searched.alike ?_
  rintro ⟨path, s⟩ ⟨path', s'⟩ ⟨rfl, related⟩
  exact .searchReading _ related

theorem plan_alike :
    ((req.restricted x).plan ctx index).Alike (Search.Rel index rel) ((req.restricted x').plan ctx index) := by
  refine (Agree.refl (fun _ => rfl) req.validate).alike fun _ _ _ => ?_
  dsimp only [restricted]
  split
  · exact .done _
  · exact (stats_alike closed compiled).bind fun overall => .done _
  · exact .done _

theorem histogram_alike (start : Option R) (step : R) :
    ((req.restricted x).histogram ctx index start step).Alike (Search.Rel index rel)
      ((req.restricted x').histogram ctx index start step) := by
  have searched : Agree (fun a a' => a.1 = a'.1 ∧ Search.Rel index rel a.2 a'.2)
      ((req.restricted x).histogramSearch ctx index start step)
      ((req.restricted x').histogramSearch ctx index start step) := by
    refine (Agree.refl (fun _ => rfl) (ctx.schema index)).bind fun s s' hs => ?_
    subst hs
    refine (Agree.refl (fun _ => rfl) (s.aggregatedNumeric req.field)).bind fun f f' hf => ?_
    subst hf
    exact (boundedQuery_agree closed compiled f start).bind fun q q' related =>
      .ok ⟨rfl, rfl, rfl, rfl, related⟩
  refine searched.alike ?_
  rintro ⟨path, s⟩ ⟨path', s'⟩ ⟨rfl, related⟩
  exact .searchReading _ related

theorem runPlan_alike (plan : NumericPlan R) :
    ((req.restricted x).runPlan ctx index plan).Alike (Search.Rel index rel)
      ((req.restricted x').runPlan ctx index plan) := by
  cases plan with
  | stats => exact (stats_alike closed compiled).bind fun bucket => .done _
  | histogram start step => exact histogram_alike closed compiled start step
  | empty => exact .done _

omit closed compiled

theorem compiles_of_boundedQuery {f : Field} {start : Option R} {q : Option (Query R)}
    (h : (req.restricted x).boundedQuery ctx index f start = .ok q) :
    ∃ q, ctx.compileFilter index req.filter (some req.field) req.filterSelf (Filter.both req.authFilter x) =
      .ok q := by
  obtain ⟨base, compiled, -⟩ := bind_eq_ok_iff.mp h
  exact ⟨base, compiled⟩

theorem compiles_of_stats {st : Store R} {bucket : StatBucket R}
    (h : ((req.restricted x).stats ctx index).onStore st = .value bucket) :
    ∃ q, ctx.compileFilter index req.filter (some req.field) req.filterSelf (Filter.both req.authFilter x) =
      .ok q := by
  rw [stats, Dialogue.onStore_bind, Outcome.bind_eq_value_iff] at h
  obtain ⟨found, searched, -⟩ := h
  rw [Dialogue.onStore_ofExcept, Outcome.ofExcept_eq_value_iff] at searched
  obtain ⟨field, query, queried, -⟩ := exists_of_statsSearch searched
  exact compiles_of_boundedQuery queried

/-- A numeric aggregation has a value only if its filters compile. -/
theorem compiles_of_numeric {st : Store R} {buckets : List (StatBucket R)}
    (h : ((req.restricted x).numeric ctx index).onStore st = .value buckets) :
    ∃ q, ctx.compileFilter index req.filter (some req.field) req.filterSelf (Filter.both req.authFilter x) =
      .ok q := by
  rw [numeric, Dialogue.onStore_bind, Outcome.bind_eq_value_iff] at h
  obtain ⟨plan, planned, run⟩ := h
  cases plan with
  | stats =>
    rw [runPlan, Dialogue.onStore_bind, Outcome.bind_eq_value_iff] at run
    obtain ⟨bucket, run, -⟩ := run
    exact compiles_of_stats run
  | histogram start step =>
    rw [runPlan, histogram, Dialogue.onStore_bind, Outcome.bind_eq_value_iff] at run
    obtain ⟨found, searched, -⟩ := run
    rw [Dialogue.onStore_ofExcept, Outcome.ofExcept_eq_value_iff] at searched
    obtain ⟨field, query, queried, -⟩ := exists_of_histogramSearch searched
    exact compiles_of_boundedQuery queried
  | empty =>
    -- only a number of bins that is laid out by a search leads here
    rw [AggregationRequest.plan, Dialogue.onStore_bind, Outcome.bind_eq_value_iff] at planned
    obtain ⟨_, -, planned⟩ := planned
    split at planned
    · cases planned
    · rw [Dialogue.onStore_bind, Outcome.bind_eq_value_iff] at planned
      obtain ⟨bucket, run, -⟩ := planned
      exact compiles_of_stats run
    · cases planned

end AggregationRequest

namespace Call

/-- A call goes the same way under two restrictions, except that its searches have the queries the
one and the other compile to. -/
theorem under_alike {call : Call R} {x x' : Option (Filter R)}
    (closed : ∀ q q', rel q q' → ∀ clauses,
      rel (Query.conjunction? (q.toList ++ clauses)) (Query.conjunction? (q'.toList ++ clauses)))
    (compiled : Agree rel
      (ctx.compileFilter index call.filter call.excludeField call.filterSelf (Filter.both call.restriction x))
      (ctx.compileFilter index call.filter call.excludeField call.filterSelf (Filter.both call.restriction x'))) :
    (call.under ctx index x).Alike (Search.Rel index rel) (call.under ctx index x') := by
  cases call with
  | terms req => exact (TermsRequest.run_alike compiled).map _
  | numeric req =>
    refine ((AggregationRequest.plan_alike closed compiled).bind fun plan => ?_).map _
    exact AggregationRequest.runPlan_alike closed compiled plan
  | total filter => exact (compiled.alike fun q q' related => .searchReading _ ⟨rfl, rfl, rfl, related⟩).map _
  | rows req =>
    have searched :
        Agree (Search.Rel index rel) ({ req with scope := Filter.both req.scope x }.search ctx index)
        ({ req with scope := Filter.both req.scope x' }.search ctx index) := by
      refine compiled.bind fun q q' related => ?_
      refine (Agree.refl (fun _ => rfl) (ctx.compileSort index req.sort)).bind fun sort sort' hsort => ?_
      subst hsort
      exact .ok ⟨rfl, rfl, rfl, related⟩
    exact (searched.alike fun s s' related => .searchReading _ related).map _

theorem limited_alike {call : Call R} {x x' : Option (Filter R)}
    (closed : ∀ q q', rel q q' → ∀ clauses,
      rel (Query.conjunction? (q.toList ++ clauses)) (Query.conjunction? (q'.toList ++ clauses)))
    (compiled : Agree rel
      (ctx.compileFilter index call.filter call.excludeField call.filterSelf (Filter.both call.restriction x))
      (ctx.compileFilter index call.filter call.excludeField call.filterSelf (Filter.both call.restriction x'))) :
    (call.limited ctx index x).Alike (Search.Rel index rel) (call.limited ctx index x') := by
  have under := under_alike closed compiled
  unfold limited
  split
  · exact under
  · exact under.bounded _ _

/-- A call has a value only if its filters compile. -/
theorem compiles_of_value {call : Call R} {x : Option (Filter R)} {st : Store R} {a : Answer R}
    (h : (call.limited ctx index x).onStore st = .value a) :
    ∃ q, ctx.compileFilter index call.filter call.excludeField call.filterSelf
      (Filter.both call.restriction x) = .ok q := by
  have under : (call.under ctx index x).onStore st = .value a := by
    unfold limited at h
    split at h
    · exact h
    · rwa [Dialogue.onStore_bounded, Outcome.bounded_eq_value_iff] at h
  cases call with
  | terms req =>
    obtain ⟨buckets, run, -⟩ := Outcome.bind_eq_value_iff.mp (Dialogue.onStore_map st _ _ ▸ under)
    obtain ⟨plan, planned⟩ := TermsRequest.exists_plan_of_run_onStore run
    obtain ⟨s, f, q, -, -, compiled, -⟩ := TermsRequest.plan_eq_ok_iff.mp planned
    exact ⟨q, compiled⟩
  | numeric req =>
    obtain ⟨buckets, run, -⟩ := Outcome.bind_eq_value_iff.mp (Dialogue.onStore_map st _ _ ▸ under)
    exact AggregationRequest.compiles_of_numeric run
  | total filter =>
    obtain ⟨count, run, -⟩ := Outcome.bind_eq_value_iff.mp (Dialogue.onStore_map st _ _ ▸ under)
    rw [totalCount, Dialogue.onStore_bind, Outcome.bind_eq_value_iff] at run
    obtain ⟨q, compiled, -⟩ := run
    rw [Dialogue.onStore_ofExcept, Outcome.ofExcept_eq_value_iff] at compiled
    exact ⟨q, compiled⟩
  | rows req =>
    obtain ⟨rows, run, -⟩ := Outcome.bind_eq_value_iff.mp (Dialogue.onStore_map st _ _ ▸ under)
    rw [RowRequest.run, Dialogue.onStore_bind, Outcome.bind_eq_value_iff] at run
    obtain ⟨search, searched, -⟩ := run
    rw [Dialogue.onStore_ofExcept, Outcome.ofExcept_eq_value_iff] at searched
    obtain ⟨q, compiled, -⟩ := bind_eq_ok_iff.mp searched
    exact ⟨q, compiled⟩

end Call

end TieredSearch
