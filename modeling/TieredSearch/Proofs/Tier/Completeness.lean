import TieredSearch.Proofs.Search.Answered
import TieredSearch.Proofs.Tier.Call
import TieredSearch.Proofs.Tier.Suppression

/-!
# All or nothing

A mediated call has an answer only if everything that was asked for it has been replied in full. Main
statement (`mediated_answer_is_whole`): against any backend, every search of the call got an answer
that has what the search is for; and the searches are those of the listing that the decision takes,
of the layout, of the run under the restriction of the decision and, where counts are suppressed, of
the run of the shadow, each of which has come to a value of its own. Listings are read to their last
pages.
-/

namespace TieredSearch

variable {R : Type} [Scalar R] {σ : Type} {serve : Search R → σ → Reply R × σ} {state after : σ}
    {ctx : Context} {index : String}

open Dialogue (Demands)

/-! ### Stages of a call -/

namespace Call

/-- The layout of the bins of a call; the other calls have none to be laid out. -/
def layout (ctx : Context) (index : String) (restriction : Option (Filter R)) :
    Call R → Dialogue R (NumericPlan R)
  | .numeric req => (req.restricted restriction).plan ctx index
  | _ => .done (.value .stats)

/-- One run of a call that is laid out, under a restriction. -/
def laidOut (ctx : Context) (index : String) (plan : NumericPlan R) (restriction : Option (Filter R)) :
    Call R → Dialogue R (Answer R)
  | .terms req => ((req.restricted restriction).terms ctx index).map .terms
  | .numeric req => ((req.restricted restriction).runPlan ctx index plan).map .numeric
  | .total filter => (totalCount ctx index filter restriction).map .total
  | .rows req => ({ req with scope := Filter.both req.scope restriction }.run ctx index).map .rows

theorem demands_layout (call : Call R) (restriction : Option (Filter R)) :
    (call.layout ctx index restriction).Demands serve Reply.Answers := by
  cases call with
  | numeric req => exact AggregationRequest.demands_plan _
  | _ => exact Demands.done _

theorem demands_laidOut (call : Call R) (plan : NumericPlan R) (restriction : Option (Filter R)) :
    (call.laidOut ctx index plan restriction).Demands serve Reply.Answers := by
  cases call with
  | terms req => exact (TermsRequest.demands_run _).map _
  | numeric req => exact (AggregationRequest.demands_runPlan _ _).map _
  | total filter => exact (demands_totalCount _ _).map _
  | rows req => exact (RowRequest.demands_run _).map _

/-- The restrictions a call is run under: that of the decision and, unless it asks for rows, that of
the shadow if there is one. -/
def restrictions (decision : Decision R) (call : Call R) : List (Option (Filter R)) :=
  if call.isRaw then [decision.scopeFilter] else decision.restrictions

/-- The runs of a call that is decided on and laid out, in order. -/
def runs (ctx : Context) (index : String) (decision : Decision R) (plan : NumericPlan R)
    (call : Call R) : Dialogue R (List (Answer R)) :=
  .all ((call.restrictions decision).map fun restriction => call.laidOut ctx index plan restriction)

theorem demands_runs (decision : Decision R) (plan : NumericPlan R) (call : Call R) :
    (call.runs ctx index decision plan).Demands serve Reply.Answers := by
  refine Demands.all fun d hd => ?_
  obtain ⟨restriction, -, rfl⟩ := List.mem_map.mp hd
  exact call.demands_laidOut plan restriction

end Call

namespace Mediation

variable {α β : Type} {seconds : Nat} {fault : BackendFault} {redact : α → α → α} {answer : α}
    {layout : Option (Filter R) → Dialogue R β} {operation : β → Option (Filter R) → Dialogue R α}
    {decision : Decision R}

omit [Scalar R] in
/-- A pair of runs comes to a value when the one and, if there is a shadow, the other does. -/
theorem exists_all_of_pair {operation : Option (Filter R) → Dialogue R α} (wrap : α → Answer R)
    {results : α × Option α} (h : (pair decision operation).Yields serve state results after) :
    ∃ answers, (Dialogue.all (decision.restrictions.map fun restriction =>
        (operation restriction).map wrap)).Yields serve state answers after ∧
      (pair decision operation).exchanges serve state = (Dialogue.all (decision.restrictions.map
        fun restriction => (operation restriction).map wrap)).exchanges serve state := by
  rw [pair] at h ⊢
  rw [Decision.restrictions]
  cases shadowed : decision.shadowFilter with
  | none =>
    rw [shadowed] at h
    obtain ⟨primary, run, -⟩ := Dialogue.yields_map.mp h
    have first := run.map wrap
    refine ⟨[wrap primary], Dialogue.yields_all_cons.mpr ⟨_, [], after, first, ⟨rfl, rfl⟩, rfl⟩, ?_⟩
    rw [Option.toList_none, List.map_nil, List.map_cons, List.map_nil,
      Dialogue.exchanges_all_cons first, Dialogue.exchanges_map, Dialogue.all, Dialogue.exchanges,
      List.append_nil]
    exact Dialogue.exchanges_map _ _ _
  | some shadow =>
    rw [shadowed] at h
    obtain ⟨⟨primary, second⟩, run, -⟩ := Dialogue.yields_map.mp h
    obtain ⟨between, run, run'⟩ := Dialogue.yields_both.mp run
    have first := run.map wrap
    have last := run'.map wrap
    refine ⟨[wrap primary, wrap second], Dialogue.yields_all_cons.mpr ⟨_, _, between, first,
      Dialogue.yields_all_cons.mpr ⟨_, [], after, last, ⟨rfl, rfl⟩, rfl⟩, rfl⟩, ?_⟩
    rw [Option.toList_some, List.map_singleton, List.map_cons, List.map_singleton,
      Dialogue.exchanges_all_cons first, Dialogue.exchanges_all_cons last, Dialogue.exchanges_map,
      Dialogue.exchanges_map, Dialogue.all, Dialogue.exchanges, List.append_nil,
      ← Dialogue.exchanges_both run run']
    exact Dialogue.exchanges_map _ _ _

/-- What is carried out comes to a value in stages: the layout, and the runs one after the other. -/
theorem exists_stages_of_act {m : Mediation} {call : Call R} {answer : Answer R}
    (h : (m.act index decision call).Yields serve state answer after) :
    ∃ plan laid answers,
      (call.layout m.ctx index decision.scopeFilter).Yields serve state plan laid ∧
      (call.runs m.ctx index decision plan).Yields serve laid answers after ∧
      (m.act index decision call).exchanges serve state =
        (call.layout m.ctx index decision.scopeFilter).exchanges serve state ++
          (call.runs m.ctx index decision plan).exchanges serve laid := by
  cases call with
  | terms req =>
    obtain ⟨results, run, -⟩ := Dialogue.yields_map.mp h
    obtain ⟨answers, runs, record⟩ :=
      exists_all_of_pair Answer.terms (Dialogue.yields_bounded.mp run)
    refine ⟨.stats, state, answers, ⟨rfl, rfl⟩, runs, ?_⟩
    rw [act, Dialogue.exchanges_map, Dialogue.exchanges_bounded]
    exact record
  | numeric req =>
    obtain ⟨results, run, -⟩ := Dialogue.yields_map.mp h
    obtain ⟨plan, laid, laying, run⟩ := Dialogue.yields_bind.mp (Dialogue.yields_bounded.mp run)
    obtain ⟨answers, runs, record⟩ := exists_all_of_pair Answer.numeric run
    refine ⟨plan, laid, answers, laying, runs, ?_⟩
    rw [act, Dialogue.exchanges_map, Dialogue.exchanges_bounded, Dialogue.exchanges_bind laying]
    exact congrArg _ record
  | total filter =>
    obtain ⟨results, run, -⟩ := Dialogue.yields_map.mp h
    obtain ⟨answers, runs, record⟩ :=
      exists_all_of_pair Answer.total (Dialogue.yields_bounded.mp run)
    refine ⟨.stats, state, answers, ⟨rfl, rfl⟩, runs, ?_⟩
    rw [act, Dialogue.exchanges_map, Dialogue.exchanges_bounded]
    exact record
  | rows req =>
    refine ⟨.stats, state, [answer], ⟨rfl, rfl⟩,
      Dialogue.yields_all_cons.mpr ⟨answer, [], after, h, ⟨rfl, rfl⟩, rfl⟩, ?_⟩
    have record := Dialogue.exchanges_all_cons h []
    exact (List.append_nil _).symm.trans record.symm

end Mediation

/-! ### The decision -/

namespace Decision

variable {scope : Scope} {req : TierRequest R}

theorem demands_make : (make ctx scope index req).Demands serve Reply.Answers := by
  refine Demands.ofExcept_bind fun level _ => ?_
  have listing : ((scope.outOfScope ctx index req.filter req.excludeField req.filterSelf).bind
      fun paths => Dialogue.ofExcept (regular ctx scope req paths)).Demands serve Reply.Answers :=
    ((TermsRequest.demands_run _).map _).bind fun paths => Demands.ofExcept _
  cases level with
  | libre => exact Demands.done _
  | restricted => exact Demands.done _
  | regular => exact listing
  | granular => exact listing

/-- Counts are suppressed only after the paths out of scope have been listed. -/
theorem exists_listing_of_shadow {decision : Decision R} {shadow : Filter R}
    (made : (make ctx scope index req).Yields serve state decision after)
    (shadowed : decision.shadowFilter = some shadow) :
    ∃ paths, (scope.outOfScope ctx index req.filter req.excludeField req.filterSelf).Yields serve
      state paths after := by
  obtain ⟨level, between, known, made⟩ := Dialogue.yields_bind.mp made
  obtain ⟨-, rfl⟩ := Dialogue.yields_ofExcept.mp known
  have listing (made : ((scope.outOfScope ctx index req.filter req.excludeField req.filterSelf).bind
      fun paths => Dialogue.ofExcept (regular ctx scope req paths)).Yields serve state decision after) :
      ∃ paths, (scope.outOfScope ctx index req.filter req.excludeField req.filterSelf).Yields serve
        state paths after := by
    obtain ⟨paths, between, listing, decided⟩ := Dialogue.yields_bind.mp made
    obtain ⟨-, rfl⟩ := Dialogue.yields_ofExcept.mp decided
    exact ⟨paths, listing⟩
  cases level with
  | libre =>
    -- without a listing there is no shadow
    cases made.1
    cases shadowed
  | restricted =>
    cases made.1
    cases shadowed
  | regular => exact listing made
  | granular => exact listing made

end Decision

/-! ### The whole call -/

/-- Whatever the backend replies, a mediated call that has an answer is whole. Every search it asked
for got an answer that has what the search is for. The searches are those of the decision, of the
layout, and of the runs of the call one after the other, each of which came to a value; where the
decision suppresses counts, the paths out of scope have been listed before, and counts are run under
both restrictions. An enumeration that comes to a value has been read to its last page. -/
theorem mediated_answer_is_whole {m : Mediation} {index : String} {accessibility : Accessibility}
    {call : Call R} {answer : Answer R}
    (answered : (m.answer index accessibility call).Yields serve state answer after) :
    (∀ x ∈ (m.answer index accessibility call).exchanges serve state, Reply.Answers x.1 x.2) ∧
    (∃ decision decided plan laid answers,
      (Decision.make m.ctx m.scope index (call.tierRequest accessibility)).Yields serve state
        decision decided ∧
      (call.layout m.ctx index decision.scopeFilter).Yields serve decided plan laid ∧
      (call.runs m.ctx index decision plan).Yields serve laid answers after ∧
      (m.answer index accessibility call).exchanges serve state =
        (Decision.make m.ctx m.scope index (call.tierRequest accessibility)).exchanges serve state ++
          ((call.layout m.ctx index decision.scopeFilter).exchanges serve decided ++
            (call.runs m.ctx index decision plan).exchanges serve laid) ∧
      ∀ shadow, decision.shadowFilter = some shadow →
        (∃ paths, (m.scope.outOfScope m.ctx index call.filter call.excludeField
          call.filterSelf).Yields serve state paths decided) ∧
        (call.isRaw = false → call.restrictions decision = [decision.scopeFilter, some shadow])) ∧
    ∀ (req : TermsRequest R) (state after : σ) (buckets : List TermBucket),
      (req.run m.ctx index).Yields serve state buckets after →
        ∃ plan, req.plan m.ctx index = .ok plan ∧
          plan.ReadToEnd none ((req.run m.ctx index).exchanges serve state) := by
  rw [Mediation.answer_eq] at answered ⊢
  obtain ⟨_, between, checked, answered⟩ := Dialogue.yields_bind.mp answered
  obtain ⟨valid, rfl⟩ := Dialogue.yields_ofExcept.mp checked
  obtain ⟨decision, decided, made, acted⟩ := Dialogue.yields_bind.mp answered
  obtain ⟨plan, laid, answers, laying, runs, stages⟩ := Mediation.exists_stages_of_act acted
  have record : (((Dialogue.ofExcept call.validate).bind fun _ =>
      (Decision.make m.ctx m.scope index (call.tierRequest accessibility)).bind fun decision =>
        m.act index decision call)).exchanges serve state =
      (Decision.make m.ctx m.scope index (call.tierRequest accessibility)).exchanges serve state ++
        ((call.layout m.ctx index decision.scopeFilter).exchanges serve decided ++
          (call.runs m.ctx index decision plan).exchanges serve laid) := by
    rw [valid, Dialogue.ofExcept_ok, Dialogue.value_bind, Dialogue.exchanges_bind made, stages]
  refine ⟨fun x hx => ?_, ⟨decision, decided, plan, laid, answers, made, laying, runs, record, ?_⟩, ?_⟩
  · rw [record, List.mem_append, List.mem_append] at hx
    rcases hx with hx | hx | hx
    · exact Decision.demands_make _ _ _ made x hx
    · exact call.demands_layout decision.scopeFilter _ _ _ laying x hx
    · exact call.demands_runs decision plan _ _ _ runs x hx
  · intro shadow shadowed
    have listed := Decision.exists_listing_of_shadow made shadowed
    refine ⟨listed, fun counts => ?_⟩
    rw [Call.restrictions, counts, Decision.restrictions, shadowed]
    rfl
  · intro req state after buckets run
    exact req.exists_readToEnd_of_yields run

/-- Three subjects out of reach are suppressed among many: the paths, the counts and the counts of the
shadow are asked for, and each of the three searches has been answered. -/
theorem counts_of_crowd_are_whole :
    let asked := (Mediation.mk (Sample.context .regular) (Sample.scope ["/a"] ["/b"])).answer "subject"
      .all (.terms Sample.paths)
    asked.Yields Backend.serve Sample.crowd (.terms [⟨"/a", 30⟩, ⟨"/b", suppressedCount⟩])
      (.script []) ∧
    (asked.exchanges Backend.serve Sample.crowd).length = 3 ∧
    ∀ x ∈ asked.exchanges Backend.serve Sample.crowd, Reply.Answers x.1 x.2 := by
  intro asked
  have answered : asked.Yields Backend.serve Sample.crowd
      (.terms [⟨"/a", 30⟩, ⟨"/b", suppressedCount⟩]) (.script []) := ⟨by rfl, by rfl⟩
  exact ⟨answered, by rfl, (mediated_answer_is_whole answered).1⟩

end TieredSearch
