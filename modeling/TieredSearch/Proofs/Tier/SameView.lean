import TieredSearch.Proofs.Aggregation.Nothing
import TieredSearch.Proofs.Filter.Rooted
import TieredSearch.Proofs.Scope.Resolution
import TieredSearch.Proofs.Tier.Call
import TieredSearch.Proofs.Tier.Shadow

/-!
# Calls that see the same

Two restrictions give a call the same view of two stores when its filters compile alike under both
and select the same documents (`Call.SameView`). A call whose counts are suppressed then ends alike,
if this holds of both its runs (`Mediation.act_onStore_congr`). Where it sees nothing at all, it ends
as the plain operation does, since there is nothing to suppress (`Mediation.act_onStore_of_nothing`).
-/

namespace TieredSearch

variable {R : Type} [Scalar R] {ctx : Context} {index : String} {st st' : Store R}

/-- The queries select the same documents of two stores. -/
def SelectSame (st st' : Store R) (index : String) (q q' : Option (Query R)) : Prop :=
  st.selected index q = st'.selected index q'

/-- Further clauses select the same of what is the same. -/
theorem SelectSame.beside {q q' : Option (Query R)} (same : SelectSame st st' index q q')
    (clauses : List (Query R)) :
    SelectSame st st' index (Query.conjunction? (q.toList ++ clauses))
      (Query.conjunction? (q'.toList ++ clauses)) := by
  have narrowed (st : Store R) (q : Option (Query R)) :
      st.selected index (Query.conjunction? (q.toList ++ clauses)) =
        (st.selected index q).filter fun doc => clauses.all (·.selects doc) := by
    rw [Store.selected, Store.selected, List.filter_filter]
    refine List.filter_congr fun doc _ => ?_
    rw [Query.admits_beside, Bool.and_comm]
  rw [SelectSame, narrowed, narrowed, same]

/-- Operations that go the same way and whose queries select the same end alike. -/
theorem Dialogue.onStore_eq_of_selectSame {α : Type} {d d' : Dialogue R α}
    (alike : d.Alike (Search.Rel index (SelectSame st st' index)) d') : d.onStore st = d'.onStore st' := by
  refine alike.onStore_eq ?_
  rintro s s' ⟨here, there, purpose, same⟩
  refine Store.answer_congr purpose ?_
  rw [here, there]
  exact same

/-- Under two restrictions, the filters of a call compile alike and select the same documents of two
stores. -/
def Call.SameView (ctx : Context) (index : String) (st st' : Store R) (call : Call R)
    (x x' : Option (Filter R)) : Prop :=
  Agree (SelectSame st st' index)
    (ctx.compileFilter index call.filter call.excludeField call.filterSelf (Filter.both call.restriction x))
    (ctx.compileFilter index call.filter call.excludeField call.filterSelf (Filter.both call.restriction x'))

theorem Call.SameView.refl (call : Call R) (x : Option (Filter R)) :
    call.SameView ctx index st st x x :=
  Agree.refl (fun q => show SelectSame st st index q q from rfl) _

/-! ### Restrictions outside nested objects -/

namespace Call

variable {s : Schema} {call : Call R} {x x' : Filter R} {clause clause' : Query R}

/-- Two restrictions outside nested objects give the same view when their clauses select the same. -/
theorem sameView_of_atRoot (known : ctx.schema index = .ok s)
    (h : Filter.AtRoot ⟨s, ctx.missingAlias, ctx.config.aggregation.analyzedSuffix⟩ x clause)
    (h' : Filter.AtRoot ⟨s, ctx.missingAlias, ctx.config.aggregation.analyzedSuffix⟩ x' clause')
    (same : (st.documents index).filter clause.selects = (st'.documents index).filter clause'.selects) :
    call.SameView ctx index st st' (some x) (some x') := by
  have narrowed (st : Store R) (before after : Option (Query R)) (clause : Query R)
      (h : ∀ doc, Query.admits after doc = (Query.admits before doc && clause.selects doc)) :
      st.selected index after = ((st.documents index).filter clause.selects).filter (Query.admits before) := by
    rw [Store.selected, List.filter_filter]
    exact List.filter_congr fun doc _ => h doc
  rw [SameView, Context.compileFilter_eq known, Context.compileFilter_eq known]
  have first := Filter.compile_both h.compiled h.scopes call.filter call.excludeField call.filterSelf
    call.restriction
  have second := Filter.compile_both h'.compiled h'.scopes call.filter call.excludeField call.filterSelf
    call.restriction
  refine (first.meet second).mono ?_
  rintro q q' ⟨before, admits, admits'⟩
  rw [SelectSame, narrowed st before q clause admits, narrowed st' before q' clause' admits', same]

/-- A restriction outside nested objects makes no difference where it selects all that is seen. -/
theorem sameView_none_of_selects (known : ctx.schema index = .ok s)
    (h : Filter.AtRoot ⟨s, ctx.missingAlias, ctx.config.aggregation.analyzedSuffix⟩ x clause)
    (within : ∀ query, ctx.compileFilter index call.filter call.excludeField call.filterSelf
      (Filter.both call.restriction none) = .ok query →
        ∀ doc ∈ st.selected index query, clause.selects doc = true) :
    call.SameView ctx index st st (some x) none := by
  rw [Filter.both_none] at within
  rw [SameView, Filter.both_none]
  have narrowed := Filter.compile_both h.compiled h.scopes call.filter call.excludeField call.filterSelf
    call.restriction
  rw [← Context.compileFilter_eq known, ← Context.compileFilter_eq known] at narrowed
  refine ((narrowed.left within).meet (Agree.refl (fun _ => rfl) _)).mono ?_
  rintro q before ⟨_, ⟨within, admits⟩, rfl⟩
  refine List.filter_congr fun doc stored => ?_
  rw [admits, Bool.eq_iff_iff, Bool.and_eq_true, and_iff_left_iff_imp]
  exact fun admitted => within doc (List.mem_filter.mpr ⟨stored, admitted⟩)

/-- A restriction outside nested objects makes no difference where nothing is seen. -/
theorem sameView_none_of_excludes (known : ctx.schema index = .ok s)
    (h : Filter.AtRoot ⟨s, ctx.missingAlias, ctx.config.aggregation.analyzedSuffix⟩ x clause)
    (nothing : ctx.Excludes st index call.filter call.excludeField call.filterSelf
      (Filter.both call.restriction none)) :
    call.SameView ctx index st st (some x) none := by
  refine sameView_none_of_selects known h fun query compiled doc stored => ?_
  rw [nothing query compiled] at stored
  cases stored

end Call

/-! ### Operations -/

section Operations

variable {x x' : Option (Filter R)}

theorem AggregationRequest.terms_onStore_eq {req : AggregationRequest R}
    (same : (Call.terms req).SameView ctx index st st' x x') :
    ((req.restricted x).terms ctx index).onStore st = ((req.restricted x').terms ctx index).onStore st' :=
  Dialogue.onStore_eq_of_selectSame (TermsRequest.run_alike same)

theorem AggregationRequest.plan_onStore_eq {req : AggregationRequest R}
    (same : (Call.numeric req).SameView ctx index st st' x x') :
    ((req.restricted x).plan ctx index).onStore st = ((req.restricted x').plan ctx index).onStore st' :=
  Dialogue.onStore_eq_of_selectSame (plan_alike (fun _ _ same => same.beside) same)

theorem AggregationRequest.runPlan_onStore_eq {req : AggregationRequest R}
    (same : (Call.numeric req).SameView ctx index st st' x x') (plan : NumericPlan R) :
    ((req.restricted x).runPlan ctx index plan).onStore st =
      ((req.restricted x').runPlan ctx index plan).onStore st' :=
  Dialogue.onStore_eq_of_selectSame (runPlan_alike (fun _ _ same => same.beside) same plan)

theorem totalCount_onStore_eq {filter : Option (Filter R)}
    (same : (Call.total filter).SameView ctx index st st' x x') :
    (totalCount ctx index filter x).onStore st = (totalCount ctx index filter x').onStore st' :=
  Dialogue.onStore_eq_of_selectSame
    (Agree.alike same fun _ _ related => .searchReading _ ⟨rfl, rfl, rfl, related⟩)

theorem Call.limited_onStore_eq {call : Call R} (same : call.SameView ctx index st st' x x') :
    (call.limited ctx index x).onStore st = (call.limited ctx index x').onStore st' :=
  Dialogue.onStore_eq_of_selectSame (limited_alike (fun _ _ same => same.beside) same)

end Operations

/-! ### Nothing to suppress -/

namespace Redaction

omit [Scalar R] in
theorem count_zero (r : Redaction) : r.count 0 0 = 0 := by
  simp [count, suppresses]

/-- Buckets that count nothing are not changed by such buckets. -/
theorem stats_of_zero {r : Redaction} {buckets : List (StatBucket R)}
    (zero : ∀ b ∈ buckets, b.count = 0) : r.stats buckets buckets = buckets := by
  refine (List.map_congr_left fun b hb => ?_).trans buckets.map_id
  rw [stat]
  split
  next s found =>
    rw [zero b hb, zero s (List.mem_of_find?_eq_some found), count_zero, ← zero b hb]
    rfl
  next => rfl

end Redaction

/-- A result that redacting leaves as it is ends the same with its shadow and without. -/
theorem Outcome.redact_self {α γ : Type} {seconds : Nat} {fault : BackendFault} {redact : α → α → α}
    {o : Outcome α} (fixed : ∀ a, o = .value a → redact a a = a) (answer : α → γ) :
    (((o.bind fun a => .value (a, a)).bounded seconds fault).bind fun results =>
        .value (redact results.1 results.2)).bind (fun a => .value (answer a)) =
      (o.bind fun a => .value (answer a)).bounded seconds fault := by
  cases o with
  | value a => simp [fixed a rfl]
  | failed e => rfl
  | stuck limit =>
    simp only [Outcome.stuck_bind, Outcome.bounded]
    split <;> rfl

/-! ### Calls -/

namespace Mediation

variable {α β : Type} {seconds : Nat} {fault : BackendFault} {redact : α → α → α}
  {layout : Option (Filter R) → Dialogue R β} {operation : β → Option (Filter R) → Dialogue R α}

omit [Scalar R] in
/-- With a shadow, an operation is laid out once and run twice, side by side. -/
theorem decided_of_shadowed {decision : Decision R} {restriction : Filter R}
    (shadowed : decision.shadowFilter = some restriction) :
    decided seconds fault redact layout operation decision =
      (((layout decision.scopeFilter).bind fun plan =>
        (operation plan decision.scopeFilter).both (operation plan (some restriction))).bounded
          seconds fault).map fun results => redact results.1 results.2 := by
  have paired (plan : β) : pair decision (operation plan) =
      ((operation plan decision.scopeFilter).both (operation plan (some restriction))).map
        fun results => (results.1, some results.2) := by
    rw [pair, shadowed]
    rfl
  have redacted_eq : decided seconds fault redact layout operation decision =
      (((layout decision.scopeFilter).bind fun plan => pair decision (operation plan)).bounded
        seconds fault).map (redacted redact) := rfl
  rw [redacted_eq, funext paired, ← Dialogue.bind_map, Dialogue.bounded_map, Dialogue.map_map]
  rfl

theorem act_terms (m : Mediation) (index : String) (decision : Decision R) (req : AggregationRequest R) :
    m.act index decision (.terms req) =
      (decided m.ctx.timeLimit .mediationTimedOut m.redaction.terms (fun _ => .done (.value ()))
        (fun _ restriction => (req.restricted restriction).terms m.ctx index) decision).map .terms :=
  (Dialogue.map_map _ _ _).symm

theorem act_numeric (m : Mediation) (index : String) (decision : Decision R) (req : AggregationRequest R) :
    m.act index decision (.numeric req) =
      (decided m.ctx.timeLimit .mediationTimedOut m.redaction.stats
        (fun restriction => (req.restricted restriction).plan m.ctx index)
        (fun plan restriction => (req.restricted restriction).runPlan m.ctx index plan) decision).map .numeric :=
  (Dialogue.map_map _ _ _).symm

theorem act_total (m : Mediation) (index : String) (decision : Decision R) (filter : Option (Filter R)) :
    m.act index decision (.total filter) =
      (decided m.ctx.timeLimit .mediationTimedOut m.redaction.count (fun _ => .done (.value ()))
        (fun _ restriction => totalCount m.ctx index filter restriction) decision).map .total :=
  (Dialogue.map_map _ _ _).symm

variable {scope scope' : Scope} {decision decision' : Decision R} {x x' : Filter R} {call : Call R}

/-- With a shadow, a call ends alike on two stores if both its runs see the same. -/
theorem act_onStore_congr (shadowed : decision.shadowFilter = some x)
    (shadowed' : decision'.shadowFilter = some x') (counts : call.isRaw = false)
    (first : call.SameView ctx index st st' decision.scopeFilter decision'.scopeFilter)
    (second : call.SameView ctx index st st' (some x) (some x')) :
    ((Mediation.mk ctx scope).act index decision call).onStore st =
      ((Mediation.mk ctx scope').act index decision' call).onStore st' := by
  cases call with
  | terms req =>
    rw [act_terms, act_terms, decided_of_shadowed shadowed, decided_of_shadowed shadowed']
    simp only [Dialogue.onStore_map, Dialogue.onStore_bounded, Dialogue.onStore_bind,
      Dialogue.onStore_both, AggregationRequest.terms_onStore_eq first,
      AggregationRequest.terms_onStore_eq second]
    rfl
  | numeric req =>
    rw [act_numeric, act_numeric, decided_of_shadowed shadowed, decided_of_shadowed shadowed']
    simp only [Dialogue.onStore_map, Dialogue.onStore_bounded, Dialogue.onStore_bind,
      Dialogue.onStore_both, AggregationRequest.plan_onStore_eq first,
      AggregationRequest.runPlan_onStore_eq first, AggregationRequest.runPlan_onStore_eq second]
    rfl
  | total filter =>
    rw [act_total, act_total, decided_of_shadowed shadowed, decided_of_shadowed shadowed']
    simp only [Dialogue.onStore_map, Dialogue.onStore_bounded, Dialogue.onStore_bind,
      Dialogue.onStore_both, totalCount_onStore_eq first, totalCount_onStore_eq second]
    rfl
  | rows req => cases counts

/-- A call that sees nothing, in either of its runs, ends as the plain operation does. -/
theorem act_onStore_of_nothing {plain : Option (Filter R)} (shadowed : decision.shadowFilter = some x)
    (counts : call.isRaw = false)
    (first : call.SameView ctx index st st decision.scopeFilter plain)
    (second : call.SameView ctx index st st (some x) plain)
    (nothing : ctx.Excludes st index call.filter call.excludeField call.filterSelf
      (Filter.both call.restriction plain)) :
    ((Mediation.mk ctx scope).act index decision call).onStore st =
      (call.limited ctx index plain).onStore st := by
  rw [Call.limited, counts, if_neg Bool.false_ne_true, Dialogue.onStore_bounded]
  cases call with
  | terms req =>
    rw [act_terms, decided_of_shadowed shadowed]
    simp only [Dialogue.onStore_map, Dialogue.onStore_bounded, Dialogue.onStore_bind,
      Dialogue.onStore_both, AggregationRequest.terms_onStore_eq first,
      AggregationRequest.terms_onStore_eq second, Outcome.both_self, Call.under]
    refine Outcome.redact_self (fun buckets run => ?_) _
    rw [TermsRequest.eq_nil_of_run_onStore nothing run]
    rfl
  | numeric req =>
    rw [act_numeric, decided_of_shadowed shadowed]
    simp only [Dialogue.onStore_map, Dialogue.onStore_bounded, Dialogue.onStore_bind,
      Dialogue.onStore_both, AggregationRequest.plan_onStore_eq first,
      AggregationRequest.runPlan_onStore_eq first, AggregationRequest.runPlan_onStore_eq second,
      Outcome.both_self, Call.under, ← Outcome.bind_assoc]
    have numeric : ((req.restricted plain).numeric ctx index).onStore st =
        (((req.restricted plain).plan ctx index).onStore st).bind fun plan =>
          ((req.restricted plain).runPlan ctx index plan).onStore st := Dialogue.onStore_bind st _ _
    rw [← numeric]
    refine Outcome.redact_self (fun buckets run => ?_) _
    rw [numeric, Outcome.bind_eq_value_iff] at run
    obtain ⟨plan, -, run⟩ := run
    exact Redaction.stats_of_zero (AggregationRequest.count_eq_zero_of_runPlan nothing run)
  | total filter =>
    rw [act_total, decided_of_shadowed shadowed]
    simp only [Dialogue.onStore_map, Dialogue.onStore_bounded, Dialogue.onStore_bind,
      Dialogue.onStore_both, totalCount_onStore_eq first, totalCount_onStore_eq second,
      Outcome.both_self, Call.under]
    refine Outcome.redact_self (fun count run => ?_) _
    rw [eq_zero_of_totalCount nothing run]
    exact Redaction.count_zero _
  | rows req => cases counts

end Mediation

end TieredSearch
