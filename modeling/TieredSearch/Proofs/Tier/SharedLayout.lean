import TieredSearch.Proofs.Filter.Clauses
import TieredSearch.Proofs.Search.Exchange
import TieredSearch.Proofs.Tier.FailClosed
import TieredSearch.Proofs.Tier.SuppressedBins

/-!
# Histograms and their shadows

A histogram under redaction is laid out once and searched for twice. Main statement
(`histogram_shares_layout_with_shadow`): against any backend, one search at most lays the bins out,
under the restriction of the first run; the searches of the two runs ask for the same breakdown from
the same start and between the same bounds (`Field.Bounds`), the second one of those documents of the
first that the restriction to documents out of reach selects; and the answer has the bins of the first
run in their order, of which those with a small shadow have lost their counts and nothing else.

A list of paths can be asked of a text field only. So where the shadow has been searched for at all,
the field of the paths is one of texts (`Decision.rooted_of_shadow`).
-/

namespace TieredSearch

variable {R : Type} [Scalar R] {ctx : Context} {index : String} {scope : Scope}

/-! ### The field of the paths -/

/-- If the field that holds the paths of a scope is in the schema of an index, it lies outside nested
objects. -/
def Scope.PathsAtRoot (scope : Scope) (ctx : Context) (index : String) : Prop :=
  ∀ s f, ctx.schema index = .ok s → s.field? scope.authField = some f → f.nestedPath = []

namespace Filter

variable {t : Target} {x : Filter R} {opened : List String} {q : Option (Query R)}

/-- Of two filters that compile together, the second one compiles. -/
theorem compiles_of_allOf {own : Filter R}
    (compiled : compileWithin t none (.allOf [own, x]) opened = .ok q) :
    ∃ opened q, compileWithin t none x opened = .ok q := by
  obtain ⟨clauses, each, -⟩ := compileWithin_allOf_eq_ok_iff.mp compiled
  obtain ⟨-, -, others, each, -⟩ := compileEach_cons_eq_ok_iff.mp each
  obtain ⟨clause, compiled, -⟩ := compileEach_cons_eq_ok_iff.mp each
  exact ⟨_, clause, compiled⟩

theorem compiles_of_narrowedBy {exclusion : Option (Filter R)}
    (compiled : compileWithin t none (narrowedBy exclusion x) opened = .ok q) :
    ∃ opened q, compileWithin t none x opened = .ok q := by
  cases exclusion with
  | none => exact ⟨opened, q, compiled⟩
  | some exclusion => exact compiles_of_allOf compiled

theorem compiles_of_compile_both {user own : Option (Filter R)} {excludeField : Option String}
    {filterSelf : Bool}
    (compiled : compile t user excludeField filterSelf (both own (some x)) = .ok q) :
    ∃ opened q, compileWithin t none x opened = .ok q := by
  obtain ⟨-, restriction, -, compiled, -⟩ := compile_eq_ok_iff.mp compiled
  cases own with
  | none => exact ⟨[], restriction, compiled⟩
  | some own => exact compiles_of_allOf compiled

/-- A restriction to paths compiles on a text field of the schema only. -/
theorem exists_text_of_compileWithin_membership {paths : List String}
    (compiled : compileWithin t none (scope.membership paths : Filter R) opened = .ok q) :
    ∃ f, t.schema.field? scope.authField = some f ∧ f.kind = .text := by
  rw [Scope.membership] at compiled
  split_ifs at compiled
  · obtain ⟨clauses, each, -⟩ := compileWithin_anyOf_eq_ok_iff.mp compiled
    obtain ⟨clause, listed, -⟩ := compileEach_cons_eq_ok_iff.mp each
    exact exists_text_of_compileWithin_isIn listed
  · exact exists_text_of_compileWithin_isIn compiled

end Filter

namespace Decision

variable {user own : Option (Filter R)} {excludeField : Option String} {filterSelf : Bool}

/-- What a regular index decides, it decides by what is out of scope. -/
theorem exists_regular_of_yields {σ : Type} {serve : Search R → σ → Reply R × σ} {state after : σ}
    (served : ctx.config.effectiveLevel index = some .regular) {req : TierRequest R} {decision : Decision R}
    (made : (make ctx scope index req).Yields serve state decision after) :
    ∃ s paths, ctx.schema index = .ok s ∧ regular ctx scope req paths = .ok decision := by
  cases known : ctx.schema index with
  | error e =>
    rw [make, level_eq_error known] at made
    cases made.1
  | ok s =>
    rw [make_of_regular (level_eq_ok known served)] at made
    obtain ⟨paths, listed, -, decided⟩ := Dialogue.yields_bind.mp made
    exact ⟨s, paths, rfl, (Dialogue.yields_ofExcept.mp decided).1⟩

omit [Scalar R] in
/-- Its shadows are restricted to documents out of reach. -/
theorem shadow_of_regular {req : TierRequest R} {paths : List String} {decision : Decision R}
    (decided : regular ctx scope req paths = .ok decision) {restriction : Filter R}
    (shadowed : decision.shadowFilter = some restriction) :
    restriction = Filter.narrowedBy (sensitiveExclusion ctx scope) scope.unaccessibleMembership ∧
      (decision.scopeFilter = sensitiveExclusion ctx scope ∨ decision.scopeFilter = some restriction) := by
  rcases eq_of_regular decided with rfl | rfl | rfl | rfl
  · cases shadowed
  · cases shadowed
  · cases shadowed
    exact ⟨rfl, .inr rfl⟩
  · cases shadowed
    exact ⟨rfl, .inl rfl⟩

variable (root : scope.PathsAtRoot ctx index)

include root

/-- Where the filters of a shadow compile, the resource paths are texts outside nested objects. -/
theorem rooted_of_shadow {query : Option (Query R)}
    (compiled : ctx.compileFilter index user excludeField filterSelf (Filter.both own
      (some (Filter.narrowedBy (sensitiveExclusion ctx scope) scope.unaccessibleMembership))) =
        .ok query) : scope.Rooted ctx index := by
  intro s known
  rw [Context.compileFilter_eq known] at compiled
  obtain ⟨_, _, narrowed⟩ := Filter.compiles_of_compile_both compiled
  obtain ⟨_, _, member⟩ := Filter.compiles_of_narrowedBy narrowed
  obtain ⟨f, found, text⟩ := Filter.exists_text_of_compileWithin_membership member
  exact ⟨f, found, text, root s f known found⟩

/-- The shadow of a run admits what the run admits and the restriction to documents out of reach
selects, also where the run is under that restriction itself. -/
theorem admits_shadow {restriction : Option (Filter R)} {before after : Option (Query R)}
    (either : restriction = sensitiveExclusion ctx scope ∨ restriction =
      some (Filter.narrowedBy (sensitiveExclusion ctx scope) scope.unaccessibleMembership))
    (compiled : ctx.compileFilter index user excludeField filterSelf (Filter.both own restriction) =
      .ok before)
    (shadow : ctx.compileFilter index user excludeField filterSelf (Filter.both own
      (some (Filter.narrowedBy (sensitiveExclusion ctx scope) scope.unaccessibleMembership))) =
        .ok after) (doc : Json R) :
    Query.admits after doc = (Query.admits before doc &&
      (scope.membershipClause ctx.missingAlias scope.unaccessible : Query R).selects doc) := by
  have narrowed := compileFilter_shadow_of_rooted (rooted_of_shadow root shadow) user excludeField
    filterSelf own
  rw [shadow] at narrowed
  obtain ⟨plain, compiledPlain, admits⟩ := narrowed.exists_left
  rcases either with rfl | rfl
  · cases compiled.symm.trans compiledPlain
    exact admits doc
  · cases compiled.symm.trans shadow
    rw [admits, Bool.and_assoc, Bool.and_self]

end Decision

/-- Where paths are texts outside nested objects, this is the clause of a restriction to them. -/
theorem Scope.compileFilter_membership (rooted : scope.Rooted ctx index) {s : Schema}
    (known : ctx.schema index = .ok s) (paths : List String) :
    ctx.compileFilter index none none true (some (scope.membership paths : Filter R)) =
      .ok (some (scope.membershipClause ctx.missingAlias paths)) := by
  obtain ⟨f, found, text, root⟩ := rooted s known
  have member := Scope.atRoot_membership (R := R)
    (t := ⟨s, ctx.missingAlias, ctx.config.aggregation.analyzedSuffix⟩) found text root paths
  rw [Context.compileFilter_eq known]
  exact Filter.compile_eq_ok_iff.mpr ⟨none, _, rfl, member.compiled, rfl⟩

/-! ### The searches of a histogram -/

/-- A search for the same breakdown of those documents of another search that a clause selects. -/
structure Search.IsShadowOf (shadow primary : Search R) (clause : Query R) : Prop where
  /-- Both ask the same index. -/
  index : shadow.index = primary.index
  /-- Both ask for the same. -/
  purpose : shadow.purpose = primary.purpose
  /-- What passes the one passes the other and is selected. -/
  admits : ∀ doc, Query.admits shadow.query doc = (Query.admits primary.query doc && clause.selects doc)

/-- `field.Bounds start stop clauses`: the clauses ask for values of the field that are not below a start, and for
values before a stop, as far as these are given. -/
inductive Field.Bounds (field : Field) : Option R → Option R → List (Query R) → Prop where
  /-- Without either there is no clause. -/
  | none : Bounds field none none []
  /-- From a start on. -/
  | start (x : R) :
      Bounds field (some x) none [.nestedIn field.nestedPath (.range field.name .gte (.ofReal x))]
  /-- Before a stop. -/
  | stop (y : R) :
      Bounds field none (some y) [.nestedIn field.nestedPath (.range field.name .lt (.ofReal y))]
  /-- Outside nested objects there is a clause for each. -/
  | both (root : field.nestedPath = []) (x y : R) :
      Bounds field (some x) (some y) [.range field.name .gte (.ofReal x), .range field.name .lt (.ofReal y)]
  /-- Inside nested objects both are asked of the same element. -/
  | same (inside : field.nestedPath ≠ []) (x y : R) :
      Bounds field (some x) (some y) [.nestedIn field.nestedPath
        (.allOf [.range field.name .gte (.ofReal x), .range field.name .lt (.ofReal y)])]

theorem Field.bounds_boundClauses (field : Field) (start stop : Option R) :
    field.Bounds start stop (field.boundClauses start stop) := by
  -- outside nested objects, a clause inside of them is the clause itself
  have single (clause : Query R) : (if field.nestedPath.isEmpty then [clause]
      else ((Query.conjunction? [clause]).map (Query.nestedIn field.nestedPath)).toList) =
        [.nestedIn field.nestedPath clause] := by
    split
    next root =>
      rw [List.isEmpty_iff.mp root]
      rfl
    next => rfl
  unfold boundClauses
  cases start with
  | none =>
    cases stop with
    | none => split <;> exact .none
    | some y =>
      have clauses : field.Bounds none (some y) _ := .stop y
      rw [← single] at clauses
      exact clauses
  | some x =>
    cases stop with
    | none =>
      have clauses : field.Bounds (some x) none _ := .start x
      rw [← single] at clauses
      exact clauses
    | some y =>
      by_cases root : field.nestedPath = []
      · rw [if_pos (List.isEmpty_iff.mpr root)]
        exact .both root x y
      · rw [if_neg (mt List.isEmpty_iff.mp root)]
        exact .same root x y

/-- Over narrower filters, the bins of a field are searched for in the same layout. -/
theorem Field.isShadowOf_binSearch (field : Field) {before after : Option (Query R)} {clause : Query R}
    (narrowed : ∀ doc, Query.admits after doc = (Query.admits before doc && clause.selects doc))
    (start stop : Option R) (step : R) :
    (field.binSearch index after start stop step).IsShadowOf
      (field.binSearch index before start stop step) clause where
  index := rfl
  purpose := rfl
  admits doc := by
    rw [binSearch, binSearch, Query.admits_beside, Query.admits_beside, narrowed,
      Bool.and_right_comm]

namespace AggregationRequest

variable {req : AggregationRequest R} {start : Option R} {step : R}

variable {σ : Type} {serve : Search R → σ → Reply R × σ} {state after : σ}

/-- A histogram that comes to bins has asked for them in one search. -/
theorem exists_binSearch_of_histogram {buckets : List (StatBucket R)}
    (run : (req.histogram ctx index start step).Yields serve state buckets after) :
    ∃ s field base, ctx.schema index = .ok s ∧ s.aggregatedNumeric req.field = .ok field ∧
      ctx.compileFilter index req.filter (some req.field) req.filterSelf req.authFilter = .ok base ∧
      ((req.histogram ctx index start step).run serve state).searches =
        [field.binSearch index base start req.rangeEnd step] := by
  cases searched : req.histogramSearch ctx index start step with
  | error e =>
    rw [histogram, searched] at run
    cases run.1
  | ok found =>
    obtain ⟨s, field, base, known, numeric, compiled, rfl⟩ := histogramSearch_eq_ok_iff.mp searched
    refine ⟨s, field, base, known, numeric, compiled, ?_⟩
    rw [histogram, searched, Dialogue.ofExcept_ok, Dialogue.value_bind, ← Dialogue.map_fst_exchanges,
      Dialogue.exchanges_searchReading, List.map_singleton]

/-- Bins that are laid out have been asked for in one search for overall statistics at most. -/
theorem searches_of_plan {plan : NumericPlan R} (run : (req.plan ctx index).Yields serve state plan after)
    (binned : ¬(req.rangeStep = none ∧ req.binCount = none)) :
    plan.Lays ∧ ((req.plan ctx index).run serve state).searches.length ≤ 1 ∧
      ∀ s ∈ ((req.plan ctx index).run serve state).searches,
        ∃ path, req.statsSearch ctx index = .ok (path, s) := by
  rw [AggregationRequest.plan] at run ⊢
  cases valid : req.validate with
  | error e =>
    rw [valid] at run
    cases run.1
  | ok _ =>
    rw [valid, Dialogue.ofExcept_ok, Dialogue.value_bind] at run
    rw [Dialogue.ofExcept_ok, Dialogue.value_bind]
    cases width : req.rangeStep with
    | some step =>
      rw [width] at run
      cases run.1
      exact ⟨.inl (step_pos_of_validate width valid), Nat.zero_le _, fun s hs => by cases hs⟩
    | none =>
      cases count : req.binCount with
      | none => exact absurd ⟨width, count⟩ binned
      | some bins =>
        simp only [width, count] at run ⊢
        obtain ⟨overall, between, counting, derived⟩ := Dialogue.yields_bind.mp run
        cases derived.1
        refine ⟨lays_derivedPlan bins overall, ?_⟩
        rw [← Dialogue.map_fst_exchanges, Dialogue.exchanges_bind counting, Dialogue.exchanges,
          List.append_nil, stats]
        cases searched : req.statsSearch ctx index with
        | error e =>
          rw [stats, searched] at counting
          cases counting.1
        | ok found =>
          rw [Dialogue.ofExcept_ok, Dialogue.value_bind, Dialogue.exchanges_searchReading,
            List.map_singleton]
          refine ⟨Nat.le_refl 1, fun s hs => ?_⟩
          rw [List.mem_singleton.mp hs]
          exact ⟨found.1, rfl⟩

end AggregationRequest

/-! ### Both runs -/

omit [Scalar R] in
/-- The searches of one operation after the other. -/
theorem Dialogue.searches_bind {σ α β : Type} {serve : Search R → σ → Reply R × σ} {state between : σ}
    {d : Dialogue R α} {f : α → Dialogue R β} {a : α} (first : d.Yields serve state a between) :
    ((d.bind f).run serve state).searches =
      (d.run serve state).searches ++ ((f a).run serve between).searches := by
  rw [← map_fst_exchanges, exchanges_bind first, List.map_append, map_fst_exchanges, map_fst_exchanges]

namespace Mediation

variable {σ α β : Type} {serve : Search R → σ → Reply R × σ} {state after : σ} {seconds : Nat}
  {fault : BackendFault} {redact : α → α → α} {answer : α} {decision : Decision R}
  {layout : Option (Filter R) → Dialogue R β} {operation : β → Option (Filter R) → Dialogue R α}

omit [Scalar R] in
/-- An operation with a shadow asks for what its layout and both its runs ask for, one after the
other. -/
theorem exists_searches_of_decided {restriction : Filter R}
    (shadowed : decision.shadowFilter = some restriction)
    (h : (decided seconds fault redact layout operation decision).Yields serve state answer after) :
    ∃ plan laid primary between shadow, (layout decision.scopeFilter).Yields serve state plan laid ∧
      (operation plan decision.scopeFilter).Yields serve laid primary between ∧
      (operation plan (some restriction)).Yields serve between shadow after ∧
      answer = redact primary shadow ∧
      ((decided seconds fault redact layout operation decision).run serve state).searches =
        ((layout decision.scopeFilter).run serve state).searches ++
          (((operation plan decision.scopeFilter).run serve laid).searches ++
            ((operation plan (some restriction)).run serve between).searches) := by
  obtain ⟨plan, laid, primary, between, laying, first, rest⟩ := exists_run_of_decided h
  rw [shadowed] at rest
  obtain ⟨shadow, second, redacted⟩ := rest
  refine ⟨plan, laid, primary, between, shadow, laying, first, second, redacted, ?_⟩
  have both : (pair decision (operation plan)).exchanges serve laid =
      (operation plan decision.scopeFilter).exchanges serve laid ++
        (operation plan (some restriction)).exchanges serve between := by
    rw [pair, shadowed]
    exact (Dialogue.exchanges_map _ _ _).trans (Dialogue.exchanges_both first second)
  have whole : (decided seconds fault redact layout operation decision).exchanges serve state =
      (layout decision.scopeFilter).exchanges serve state ++
        (pair decision (operation plan)).exchanges serve laid := by
    rw [decided]
    refine (Dialogue.exchanges_map _ _ _).trans ?_
    rw [Dialogue.exchanges_bounded, Dialogue.exchanges_bind laying]
  simp only [← Dialogue.map_fst_exchanges, whole, both, List.map_append]

/-- A numeric aggregation that has an answer is valid and has been decided on. -/
theorem exists_decision_of_numeric {m : Mediation} {req : AggregationRequest R}
    {accessibility : Accessibility} {answer : List (StatBucket R)}
    (answered : (m.numeric index req accessibility).Yields serve state answer after) :
    req.validate = .ok () ∧ ∃ decision between,
      (m.decideAggregation index req accessibility).Yields serve state decision between ∧
      (decided m.ctx.timeLimit .mediationTimedOut m.redaction.stats
        (fun restriction => (req.restricted restriction).plan m.ctx index)
        (fun plan restriction => (req.restricted restriction).runPlan m.ctx index plan) decision).Yields
          serve between answer after := by
  rw [numeric_eq] at answered
  obtain ⟨_, start, checked, whole⟩ := Dialogue.yields_bind.mp answered
  obtain ⟨valid, rfl⟩ := Dialogue.yields_ofExcept.mp checked
  exact ⟨valid, Dialogue.yields_bind.mp whole⟩

/-- It asks for what the decision asks for, and then for what its layout and both its runs do. -/
theorem exists_searches_of_numeric {req : AggregationRequest R} {accessibility : Accessibility}
    {decided : σ} {restriction : Filter R} {answer : List (StatBucket R)}
    (made : ((Mediation.mk ctx scope).decideAggregation index req accessibility).Yields serve state
      decision decided)
    (shadowed : decision.shadowFilter = some restriction)
    (answered : ((Mediation.mk ctx scope).numeric index req accessibility).Yields serve state answer
      after) :
    ∃ plan laid primary between shadow,
      ((req.restricted decision.scopeFilter).plan ctx index).Yields serve decided plan laid ∧
      ((req.restricted decision.scopeFilter).runPlan ctx index plan).Yields serve laid primary between ∧
      ((req.restricted (some restriction)).runPlan ctx index plan).Yields serve between shadow after ∧
      answer = (Redaction.ofConfig ctx.config).stats primary shadow ∧
      (((Mediation.mk ctx scope).numeric index req accessibility).run serve state).searches =
        (((Mediation.mk ctx scope).decideAggregation index req accessibility).run serve state).searches ++
          ((((req.restricted decision.scopeFilter).plan ctx index).run serve decided).searches ++
            ((((req.restricted decision.scopeFilter).runPlan ctx index plan).run serve laid).searches ++
              (((req.restricted (some restriction)).runPlan ctx index plan).run serve between).searches)) := by
  obtain ⟨valid, decision', decided', made', acted⟩ := exists_decision_of_numeric answered
  -- a backend that has replied has done so once: the decision is the one that was made
  obtain rfl : decision = decision' := Outcome.value.inj (made.1.symm.trans made'.1)
  obtain rfl : decided = decided' := made.2.symm.trans made'.2
  obtain ⟨plan, laid, primary, between, shadow, laying, first, second, same, asked⟩ :=
    exists_searches_of_decided shadowed acted
  refine ⟨plan, laid, primary, between, shadow, laying, first, second, same, ?_⟩
  rw [numeric_eq, valid, Dialogue.ofExcept_ok, Dialogue.value_bind, Dialogue.searches_bind made, asked]

end Mediation

/-- A request for a histogram asks for the bins of one field twice: from the same start, in the same
width, up to the same bound, and the second time restricted to documents out of reach besides. -/
structure AggregationRequest.SharesLayout (ctx : Context) (index : String) (scope : Scope)
    (req : AggregationRequest R) (restriction : Option (Filter R)) (start : Option R) (step : R)
    (first second : Search R) : Prop where
  /-- Both searches are laid out alike and bounded alike, the first one beside the filters of the request. -/
  layout : ∃ s field bounds purpose, ∃ base baseShadow : Option (Query R),
    ctx.schema index = .ok s ∧ s.aggregatedNumeric req.field = .ok field ∧
    ctx.compileFilter index req.filter (some req.field) req.filterSelf
      (Filter.both req.authFilter restriction) = .ok base ∧
    field.Bounds start req.rangeEnd bounds ∧
    purpose = .breakdown (.wrap field.nestedPath histogramName
      (.histogram field.name step (start.map (Scalar.modulo · step)))) ∧
    first = ⟨index, Query.conjunction? (base.toList ++ bounds), purpose⟩ ∧
    second = ⟨index, Query.conjunction? (baseShadow.toList ++ bounds), purpose⟩
  /-- The second search asks for the breakdown the first one asks for, of those documents of the first
  that are out of reach. -/
  shadow : ∃ clause, ctx.compileFilter index none none true (some scope.unaccessibleMembership) =
    .ok (some clause) ∧ second.IsShadowOf first clause

section Runs

variable {σ : Type} {serve : Search R → σ → Reply R × σ} {state laid between after : σ}
  {req : AggregationRequest R} {decision : Decision R}
  (root : scope.PathsAtRoot ctx index)

include root

/-- Whatever a regular index decides, both runs of a histogram ask for one search each, and these share
a layout. -/
theorem AggregationRequest.exists_sharesLayout {request : TierRequest R} {paths : List String}
    (decided : Decision.regular ctx scope request paths = .ok decision) {restriction : Filter R}
    (shadowed : decision.shadowFilter = some restriction) {start : Option R} {step : R}
    {primary shadow : List (StatBucket R)}
    (run : ((req.restricted decision.scopeFilter).histogram ctx index start step).Yields serve laid
      primary between)
    (shadowRun : ((req.restricted (some restriction)).histogram ctx index start step).Yields serve between
      shadow after) :
    ∃ first second, req.SharesLayout ctx index scope decision.scopeFilter start step first second ∧
      (((req.restricted decision.scopeFilter).histogram ctx index start step).run serve laid).searches =
        [first] ∧
      (((req.restricted (some restriction)).histogram ctx index start step).run serve between).searches =
        [second] := by
  obtain ⟨s, field, base, known, numeric, compiled, asked⟩ := exists_binSearch_of_histogram run
  obtain ⟨s', field', base', known', numeric', compiled', asked'⟩ := exists_binSearch_of_histogram shadowRun
  cases known.symm.trans known'
  cases numeric.symm.trans numeric'
  obtain ⟨rfl, either⟩ := Decision.shadow_of_regular decided shadowed
  have admits := Decision.admits_shadow root either compiled compiled'
  have rooted := Decision.rooted_of_shadow root compiled'
  refine ⟨_, _, ⟨?_, ?_⟩, asked, asked'⟩
  · exact ⟨s, field, _, _, base, base', known, numeric, compiled, field.bounds_boundClauses start req.rangeEnd,
      rfl, rfl, rfl⟩
  · exact ⟨_, Scope.compileFilter_membership rooted known _,
      field.isShadowOf_binSearch admits start req.rangeEnd step⟩

end Runs

open Classical in
/-- Whatever the backend replies: where a regular index decides to suppress counts, whose
paths lie outside nested objects, and a histogram has an answer, one search at most has laid the bins out,
under the restriction of the first run. Either there is nothing in the range, or two more searches
follow those of the decision and the layout, and these share the layout. The answer then has the bins
of the first run in their order; where the first bin of the second run with the same lower bound
counts more than nothing and less than the limit, the count is withheld, and nothing else is
changed. -/
theorem histogram_shares_layout_with_shadow {σ : Type} {serve : Search R → σ → Reply R × σ}
    {state decided after : σ} (served : ctx.config.effectiveLevel index = some .regular)
    (root : scope.PathsAtRoot ctx index) {req : AggregationRequest R}
    (binned : ¬(req.rangeStep = none ∧ req.binCount = none)) {accessibility : Accessibility} {decision : Decision R}
    (made : ((Mediation.mk ctx scope).decideAggregation index req accessibility).Yields serve state
      decision decided)
    (redacts : decision.redacts = true) {answer : List (StatBucket R)}
    (answered : ((Mediation.mk ctx scope).numeric index req accessibility).Yields serve state answer
      after) :
    ∃ restriction plan laid, decision.shadowFilter = some restriction ∧
      ((req.restricted decision.scopeFilter).plan ctx index).Yields serve decided plan laid ∧
      let listing :=
        (((Mediation.mk ctx scope).decideAggregation index req accessibility).run serve state).searches
      let planning := (((req.restricted decision.scopeFilter).plan ctx index).run serve decided).searches
      let searches := (((Mediation.mk ctx scope).numeric index req accessibility).run serve state).searches
      planning.length ≤ 1 ∧
      (∀ s ∈ planning, ∃ path, (req.restricted decision.scopeFilter).statsSearch ctx index = .ok (path, s)) ∧
      match plan with
      | .stats => False
      | .empty => searches = listing ++ planning ∧ answer = []
      | .histogram start step => ∃ first second primary between shadow,
        searches = listing ++ (planning ++ [first, second]) ∧
        req.SharesLayout ctx index scope decision.scopeFilter start step first second ∧
        ((req.restricted decision.scopeFilter).histogram ctx index start step).Yields serve laid
          primary between ∧
        ((req.restricted (some restriction)).histogram ctx index start step).Yields serve between
          shadow after ∧
        answer = primary.map fun b =>
          if (Redaction.ofConfig ctx.config).Withholds shadow b then { b with count := suppressedCount }
          else b := by
  obtain ⟨restriction, shadowed⟩ := Option.isSome_iff_exists.mp redacts
  obtain ⟨-, paths, -, regular⟩ := Decision.exists_regular_of_yields served made
  obtain ⟨plan, laid, primary, between, shadow, laying, first, second, rfl, asked⟩ :=
    Mediation.exists_searches_of_numeric made shadowed answered
  obtain ⟨lays, once, planned⟩ := AggregationRequest.searches_of_plan laying binned
  refine ⟨restriction, plan, laid, shadowed, laying, once, planned, ?_⟩
  cases plan with
  | stats => exact lays
  | empty =>
    cases first.1
    exact ⟨asked.trans (congrArg _ (List.append_nil _)), rfl⟩
  | histogram start step =>
    obtain ⟨s, s', shares, ask, askShadow⟩ :=
      AggregationRequest.exists_sharesLayout root regular shadowed first second
    refine ⟨s, s', primary, between, shadow, ?_, shares, first, second, ?_⟩
    · rw [AggregationRequest.runPlan, AggregationRequest.runPlan, ask, askShadow] at asked
      exact asked
    · exact List.map_congr_left fun b _ => Redaction.stat_eq _ shadow b

/-- The ages of subjects from ten on, below a hundred, in bins of fifty years. -/
def Sample.agesBelowHundred : AggregationRequest Rat :=
  ⟨"age", none, true, some 10, some 100, some 50, none, none⟩

/-- Asked for the ages of two subjects by fifty years, of which the older one is out of scope: last of
all, the same bins are searched for twice, each time from ten on and below a hundred, and the count of the bin is
withheld. -/
theorem ages_by_fifty_share_layout :
    ((Mediation.mk (Sample.context .regular) (Sample.scope ["/a"] ["/b"])).numeric "subject"
      Sample.agesBelowHundred .all).onStore Sample.mixed =
        .value [⟨some 10, some 60, some 10, some 30, some 20, some 40, suppressedCount⟩] ∧
    ∃ listing first second baseShadow,
      (((Mediation.mk (Sample.context .regular) (Sample.scope ["/a"] ["/b"])).numeric "subject"
        Sample.agesBelowHundred .all).run Backend.serve (.store Sample.mixed false)).searches =
          listing ++ [first, second] ∧
      first.query = some (.allOf [.range "age" .gte (.ofReal 10), .range "age" .lt (.ofReal 100)]) ∧
      second.query = Query.conjunction? (Option.toList baseShadow ++
        [.range "age" .gte (.ofReal 10), .range "age" .lt (.ofReal 100)]) ∧
      second.purpose = first.purpose := by
  have answered : ((Mediation.mk (Sample.context .regular) (Sample.scope ["/a"] ["/b"])).numeric "subject"
      Sample.agesBelowHundred .all).onStore Sample.mixed =
        .value [⟨some 10, some 60, some 10, some 30, some 20, some 40, suppressedCount⟩] := by
    with_unfolding_all rfl
  have yields := Dialogue.yields_store_iff.mpr ⟨answered, rfl⟩
  obtain ⟨-, decision, decided, made, -⟩ := Mediation.exists_decision_of_numeric yields
  obtain ⟨paths, -, rfl⟩ :=
    Decision.exists_listing_of_yields (by rfl) (by rfl) (by rfl) (by rfl) made
  have root : (Sample.scope ["/a"] ["/b"]).PathsAtRoot (Sample.context .regular) "subject" := by
    rintro s f ⟨⟩ ⟨⟩
    rfl
  have binned : ¬(Sample.agesBelowHundred.rangeStep = none ∧ Sample.agesBelowHundred.binCount = none) := by
    rintro ⟨⟨⟩, -⟩
  obtain ⟨restriction, plan, laid, -, planned, -, -, runs⟩ :=
    histogram_shares_layout_with_shadow rfl root binned made rfl yields
  cases planned.1
  obtain ⟨first, second, -, -, -, searches, shares, -⟩ := runs
  obtain ⟨_, _, bounds, purpose, base, baseShadow, known, numeric, compiled, bounded, -, rfl, rfl⟩ :=
    shares.layout
  cases known
  cases numeric
  cases compiled
  rw [← List.append_assoc] at searches
  cases bounded with
  | both _ x y => exact ⟨answered, _, _, _, baseShadow, searches, rfl, rfl, rfl⟩
  | same inside x y => exact absurd rfl inside

end TieredSearch
