import TieredSearch.Proofs.Tier.SameView

/-!
# Shadows that count nothing

A shadow that selects no document suppresses nothing. A call with such a shadow ends as it would
without one, whatever its first run counts (`Mediation.act_onStore_of_bare`): the shadow has a result
whenever the first run has one, as its filters compile alike, and the result counts nothing.
-/

namespace TieredSearch

variable {R : Type} [Scalar R] {ctx : Context} {index : String} {st : Store R}

omit [Scalar R] in
/-- What goes the same way as an operation that has ended has ended too. -/
theorem Dialogue.Alike.eq_done {α : Type} {rel : Search R → Search R → Prop} {d : Dialogue R α}
    {o : Outcome α} (h : d.Alike rel (.done o)) : d = .done o := by
  cases h
  rfl

/-- Under two restrictions, the filters of a call compile both or fail for one reason. -/
def Call.CompilesLike (ctx : Context) (index : String) (call : Call R) (x x' : Option (Filter R)) :
    Prop :=
  Agree (fun _ _ => True)
    (ctx.compileFilter index call.filter call.excludeField call.filterSelf (Filter.both call.restriction x))
    (ctx.compileFilter index call.filter call.excludeField call.filterSelf (Filter.both call.restriction x'))

theorem Call.SameView.compilesLike {st' : Store R} {call : Call R} {x x' : Option (Filter R)}
    (same : call.SameView ctx index st st' x x') : call.CompilesLike ctx index x x' :=
  same.mono fun _ _ _ => trivial

theorem Call.CompilesLike.symm {call : Call R} {x x' : Option (Filter R)}
    (h : call.CompilesLike ctx index x x') : call.CompilesLike ctx index x' x := Agree.symm h

theorem Call.CompilesLike.trans {call : Call R} {x x' x'' : Option (Filter R)}
    (h : call.CompilesLike ctx index x x') (h' : call.CompilesLike ctx index x' x'') :
    call.CompilesLike ctx index x x'' :=
  (Agree.trans h h').mono fun _ _ _ => trivial

namespace Call

variable {s : Schema} {call : Call R} {x : Filter R} {clause : Query R} (known : ctx.schema index = .ok s)
  (h : Filter.AtRoot ⟨s, ctx.missingAlias, ctx.config.aggregation.analyzedSuffix⟩ x clause)

include known h

/-- Under a restriction outside nested objects, the filters of a call compile like without it, and admit
what they admit without it and the restriction selects. -/
theorem compileFilter_narrowed (call : Call R) :
    Agree (fun before after => ∀ doc, Query.admits after doc = (Query.admits before doc && clause.selects doc))
      (ctx.compileFilter index call.filter call.excludeField call.filterSelf (Filter.both call.restriction none))
      (ctx.compileFilter index call.filter call.excludeField call.filterSelf
        (Filter.both call.restriction (some x))) := by
  rw [Filter.both_none, Context.compileFilter_eq known, Context.compileFilter_eq known]
  exact Filter.compile_both h.compiled h.scopes call.filter call.excludeField call.filterSelf call.restriction

/-- A restriction that selects nothing of what is seen lets nothing through. -/
theorem excludes_of_selects
    (beyond : ∀ query, ctx.compileFilter index call.filter call.excludeField call.filterSelf
      (Filter.both call.restriction none) = .ok query →
        ∀ doc ∈ st.selected index query, clause.selects doc = false) :
    ctx.Excludes st index call.filter call.excludeField call.filterSelf
      (Filter.both call.restriction (some x)) := by
  intro query compiled
  have narrowed := compileFilter_narrowed known h call
  rw [compiled] at narrowed
  obtain ⟨before, seen, admits⟩ := narrowed.exists_left
  refine List.filter_eq_nil_iff.mpr fun doc stored admitted => ?_
  rw [admits, Bool.and_eq_true] at admitted
  have apart := beyond before seen doc (List.mem_filter.mpr ⟨stored, admitted.1⟩)
  rw [apart] at admitted
  cases admitted.2

end Call

/-! ### Results of the shadow -/

omit [Scalar R] in
/-- Terms are not changed by a shadow without any. -/
theorem Redaction.terms_of_bare (r : Redaction) (buckets : List TermBucket) :
    r.terms buckets [] = buckets := by
  refine (List.map_congr_left fun b _ => ?_).trans buckets.map_id
  simp [term, countOf?]

/-- Buckets are not changed by a shadow that counts nothing. -/
theorem Redaction.stats_of_bare {r : Redaction} {buckets shadow : List (StatBucket R)}
    (zero : ∀ b ∈ shadow, b.count = 0) : r.stats buckets shadow = buckets := by
  refine (List.map_congr_left fun b _ => ?_).trans buckets.map_id
  rw [stat]
  split
  next s found =>
    rw [zero s (List.mem_of_find?_eq_some found)]
    rfl
  next => rfl

section Results

variable {x x' : Option (Filter R)} {req : AggregationRequest R}

/-- The first run of a listing fails, or the shadow lists nothing. -/
theorem AggregationRequest.terms_of_bare (like : (Call.terms req).CompilesLike ctx index x x')
    (bare : ctx.Excludes st index req.filter (some req.field) req.filterSelf (Filter.both req.authFilter x'))
    (patient : 0 < ctx.patience) :
    (∃ e, ((req.restricted x).terms ctx index).onStore st = .failed e) ∨
      ((req.restricted x').terms ctx index).onStore st = .value [] := by
  let shadow : TermsRequest R :=
    ⟨req.field, req.filter, some req.field, req.filterSelf, Filter.both req.authFilter x', ctx.missingAlias⟩
  have alike : ((req.restricted x).terms ctx index).Alike (Search.Rel index fun _ _ => True)
      (shadow.run ctx index) := TermsRequest.run_alike like
  cases planned : shadow.plan ctx index with
  | error e =>
    have failed : shadow.run ctx index = .done (.failed e) := by
      rw [TermsRequest.run, TermsRequest.enumerate, planned]
      rfl
    rw [failed] at alike
    exact .inl ⟨e, by rw [alike.eq_done, Dialogue.onStore_done]⟩
  | ok plan =>
    obtain ⟨s, f, query, -, -, compiled, hplan⟩ := TermsRequest.plan_eq_ok_iff.mp planned
    have nothing : st.selected index plan.query = [] := hplan ▸ bare query compiled
    exact .inr (TermsRequest.run_onStore_of_nothing planned nothing patient)

/-- The first run of a layout fails, or the shadow has buckets, none of which counts anything. -/
theorem AggregationRequest.runPlan_of_bare (like : (Call.numeric req).CompilesLike ctx index x x')
    (bare : ctx.Excludes st index req.filter (some req.field) req.filterSelf (Filter.both req.authFilter x'))
    (plan : NumericPlan R) :
    (∃ e, ((req.restricted x).runPlan ctx index plan).onStore st = .failed e) ∨
      ∃ buckets, ((req.restricted x').runPlan ctx index plan).onStore st = .value buckets ∧
        ∀ b ∈ buckets, b.count = 0 := by
  have alike := runPlan_alike (fun _ _ _ _ => trivial) like plan
  suffices runs : (∃ e, (req.restricted x').runPlan ctx index plan = .done (.failed e)) ∨
      ∃ buckets, ((req.restricted x').runPlan ctx index plan).onStore st = .value buckets by
    rcases runs with ⟨e, failed⟩ | ⟨buckets, run⟩
    · rw [failed] at alike
      exact .inl ⟨e, by rw [alike.eq_done, Dialogue.onStore_done]⟩
    · exact .inr ⟨buckets, run, count_eq_zero_of_runPlan bare run⟩
  cases plan with
  | stats =>
    cases searched : (req.restricted x').statsSearch ctx index with
    | error e =>
      refine .inl ⟨e, ?_⟩
      rw [runPlan, stats, searched]
      rfl
    | ok found =>
      obtain ⟨field, query, queried, same⟩ := exists_of_statsSearch searched
      have nothing : st.selected index found.2.query = [] := by
        rw [same]
        exact selected_eq_nil_of_boundedQuery bare queried
      obtain ⟨b, run⟩ := exists_stats_of_nothing searched nothing
      refine .inr ⟨[b], ?_⟩
      rw [runPlan, Dialogue.onStore_bind, run]
      rfl
  | histogram start step =>
    cases searched : (req.restricted x').histogramSearch ctx index start step with
    | error e =>
      refine .inl ⟨e, ?_⟩
      rw [runPlan, histogram, searched]
      rfl
    | ok found =>
      obtain ⟨field, query, queried, same⟩ := exists_of_histogramSearch searched
      have nothing : st.selected index found.2.query = [] := by
        rw [same]
        exact selected_eq_nil_of_boundedQuery bare queried
      exact .inr ⟨[], histogram_of_nothing searched nothing⟩
  | empty => exact .inr ⟨[], rfl⟩

/-- The first run of a total fails, or the shadow is zero. -/
theorem totalCount_of_bare {filter : Option (Filter R)}
    (like : (Call.total filter).CompilesLike ctx index x x')
    (bare : ctx.Excludes st index filter none true (Filter.both none x')) :
    (∃ e, (totalCount ctx index filter x).onStore st = .failed e) ∨
      (totalCount ctx index filter x').onStore st = .value 0 := by
  cases compiled : ctx.compileFilter index filter none true x' with
  | error e =>
    have refused : ctx.compileFilter index filter none true x = .error e := by
      have like : Agree (fun _ _ => True) (ctx.compileFilter index filter none true x)
          (ctx.compileFilter index filter none true x') := like
      rw [compiled] at like
      exact like.eq_error
    refine .inl ⟨e, ?_⟩
    rw [totalCount, refused]
    rfl
  | ok query => exact .inr (totalCount_of_nothing compiled (bare query compiled))

end Results

/-! ### Calls -/

namespace Mediation

variable {α β : Type} {seconds : Nat} {fault : BackendFault} {redact : α → α → α}
  {layout : Option (Filter R) → Dialogue R β} {operation : β → Option (Filter R) → Dialogue R α}
  {scope : Scope} {decision : Decision R} {x : Filter R} {call : Call R}

/-- An operation ends as its first run does, if that fails or the shadow leaves its result as it is. -/
theorem decided_onStore_of_bare (shadowed : decision.shadowFilter = some x)
    (bare : ∀ plan, (∃ e, (operation plan decision.scopeFilter).onStore st = .failed e) ∨
      ∃ shadow, (operation plan (some x)).onStore st = .value shadow ∧
        ∀ a, (operation plan decision.scopeFilter).onStore st = .value a → redact a shadow = a) :
    (decided seconds fault redact layout operation decision).onStore st =
      (((layout decision.scopeFilter).bind fun plan =>
        operation plan decision.scopeFilter).bounded seconds fault).onStore st := by
  have run (plan : β) : (((operation plan decision.scopeFilter).both
      (operation plan (some x))).map fun results => redact results.1 results.2).onStore st =
        (operation plan decision.scopeFilter).onStore st := by
    rw [Dialogue.onStore_map, Dialogue.onStore_both]
    rcases bare plan with ⟨e, failed⟩ | ⟨shadow, counted, kept⟩
    · rw [failed]
      rfl
    · rw [counted]
      cases primary : (operation plan decision.scopeFilter).onStore st with
      | value a => exact congrArg Outcome.value (kept a primary)
      | failed e => rfl
      | stuck limit => rfl
  rw [decided_of_shadowed shadowed, ← Dialogue.bounded_map, Dialogue.bind_map,
    Dialogue.onStore_bounded, Dialogue.onStore_bounded, Dialogue.onStore_bind, Dialogue.onStore_bind]
  simp only [run]

/-- A call whose shadow counts nothing ends as the plain operation does under the restriction of the
decision. -/
theorem act_onStore_of_bare (shadowed : decision.shadowFilter = some x)
    (like : call.CompilesLike ctx index decision.scopeFilter (some x))
    (bare : ctx.Excludes st index call.filter call.excludeField call.filterSelf
      (Filter.both call.restriction (some x)))
    (patient : 0 < ctx.patience) :
    ((Mediation.mk ctx scope).act index decision call).onStore st =
      (call.limited ctx index decision.scopeFilter).onStore st := by
  cases call with
  | terms req =>
    rw [act_terms, Dialogue.onStore_map, decided_onStore_of_bare shadowed fun _ => ?kept,
      ← Dialogue.onStore_map, ← Dialogue.bounded_map]
    case kept =>
      exact (req.terms_of_bare like bare patient).imp_right fun counted =>
        ⟨[], counted, fun buckets _ => Redaction.terms_of_bare _ buckets⟩
    rfl
  | numeric req =>
    rw [act_numeric, Dialogue.onStore_map, decided_onStore_of_bare shadowed fun plan => ?kept,
      ← Dialogue.onStore_map, ← Dialogue.bounded_map]
    case kept =>
      refine (req.runPlan_of_bare like bare plan).imp_right ?_
      rintro ⟨shadow, counted, zero⟩
      exact ⟨shadow, counted, fun buckets _ => Redaction.stats_of_bare zero⟩
    rfl
  | total filter =>
    rw [act_total, Dialogue.onStore_map, decided_onStore_of_bare shadowed fun _ => ?kept,
      ← Dialogue.onStore_map, ← Dialogue.bounded_map]
    case kept =>
      exact (totalCount_of_bare like bare).imp_right fun counted => ⟨0, counted, fun count _ => rfl⟩
    rfl
  | rows req => rfl

end Mediation

end TieredSearch
