import TieredSearch.Proofs.Filter.Refusal
import TieredSearch.Proofs.Search.Run
import TieredSearch.Proofs.Tier.NumericShadow

/-!
# The caller is blamed before anything is asked

An error that the caller is to blame for is found in the request, the configuration and the schemas, and so
before the first search. Of an operation that has asked for a search, `Dialogue.Spares` says that it does not
blame the caller any more, however it is replied; `Dialogue.BlamesFirst` says of an operation that it blames the
caller at once or not at all. An answer that cannot be read is the fault of the backend, so a single search spares
the caller (`Spares.searchReading`), and so do the pages of an enumeration.

A histogram with a given number of bins is the case that takes two searches, each with its own look at the field
and the filters. The first one has compiled what the second one compiles (`exists_histogramSearch`); it is only the
bounds that differ, and these cannot be refused. Main statement: `caller_blamed_unasked`.
-/

namespace TieredSearch

variable {R : Type}

/-! ### Operations that do not blame the caller -/

/-- If the run has ended with an error of the caller, it has asked for nothing. -/
def Dialogue.Transcript.BlamesUnasked {σ α : Type} (t : Dialogue.Transcript σ R α) : Prop :=
  ∀ e, t.outcome = .failed e → e.isUserError = true → t.searches = []

/-- The caller is not to blame for the error. -/
def QueryError.Spares (e : QueryError) : Prop := e.isUserError = false

namespace Dialogue

variable {α β : Type}

/-- However it is replied, the operation does not end with an error of the caller. -/
inductive Spares : Dialogue R α → Prop where
  /-- It has ended without one. -/
  | done {o : Outcome α} (spared : ∀ e, o = .failed e → e.Spares) : Spares (.done o)
  /-- It asks for a search. -/
  | ask {s : Search R} {next : Reply R → Dialogue R α} (goesOn : ∀ reply, Spares (next reply)) :
      Spares (.ask s next)

/-- The operation ends with an error of the caller before it asks for a search, or not at all. -/
inductive BlamesFirst : Dialogue R α → Prop where
  /-- It has ended, with any error. -/
  | done (o : Outcome α) : BlamesFirst (.done o)
  /-- It asks for a search, and does not blame the caller from there on. -/
  | ask {s : Search R} {next : Reply R → Dialogue R α} (goesOn : ∀ reply, Spares (next reply)) :
      BlamesFirst (.ask s next)

namespace Spares

theorem value (a : α) : Spares (.done (.value a) : Dialogue R α) := by
  apply done
  rintro e ⟨⟩

theorem failed {e : QueryError} (spares : e.Spares) : Spares (.done (.failed e) : Dialogue R α) := by
  apply done
  rintro e' ⟨⟩
  exact spares

theorem stuck (limit : Option BackendFault) : Spares (.done (.stuck limit) : Dialogue R α) := by
  apply done
  rintro e ⟨⟩

theorem blamesFirst {d : Dialogue R α} (spares : d.Spares) : d.BlamesFirst := by
  cases spares with
  | done => exact .done _
  | ask goesOn => exact .ask goesOn

/-- No run of the operation blames the caller. -/
theorem isUserError_eq_false {d : Dialogue R α} (spares : d.Spares) {σ : Type}
    {serve : Search R → σ → Reply R × σ} {state : σ} {e : QueryError}
    (ended : (d.run serve state).outcome = .failed e) : e.isUserError = false := by
  induction spares generalizing state with
  | done spared => exact spared e ended
  | ask _ ih => exact ih _ ended

theorem bind {d : Dialogue R α} {f : α → Dialogue R β} (first : d.Spares) (second : ∀ a, (f a).Spares) :
    (d.bind f).Spares := by
  induction first with
  | @done o spared =>
    cases o with
    | value a => exact second a
    | failed e => exact failed (spared e rfl)
    | stuck limit => exact stuck limit
  | ask _ ih => exact .ask ih

theorem ofExcept {x : Except QueryError α} (fails : FailsOnly QueryError.Spares x) :
    (ofExcept x : Dialogue R α).Spares := by
  cases x with
  | ok a => exact value a
  | error e => exact failed (fails e rfl)

/-- A search that is replied badly or not at all is not the caller's fault. -/
theorem searchReading {s : Search R} {read : Json R → Except QueryError α}
    (reads : ∀ answer, FailsOnly QueryError.Spares (read answer)) : (searchReading s read).Spares := by
  refine bind (.ask fun reply => ?_) fun answer => ofExcept (reads answer)
  cases reply with
  | body answer => exact value answer
  | failure reasons => exact failed rfl
  | silence => exact stuck none

/-- Nor is it that time has run out. -/
theorem bounded {d : Dialogue R α} (spares : d.Spares) (seconds : Nat) (fault : BackendFault) :
    (d.bounded seconds fault).Spares := by
  induction spares with
  | @done o spared =>
    cases o with
    | stuck limit =>
      rw [Dialogue.bounded]
      split
      · exact failed rfl
      · exact stuck _
    | value a => exact .done spared
    | failed e => exact .done spared
  | ask _ ih => exact .ask ih

end Spares

namespace BlamesFirst

theorem run {d : Dialogue R α} (first : d.BlamesFirst) {σ : Type} (serve : Search R → σ → Reply R × σ)
    (state : σ) : (d.run serve state).BlamesUnasked := by
  intro e failed blamed
  cases first with
  | done o => rfl
  | ask goesOn => exact absurd blamed (Bool.eq_false_iff.mp ((goesOn _).isUserError_eq_false failed))

theorem bind {d : Dialogue R α} {f : α → Dialogue R β} (first : d.BlamesFirst) (second : ∀ a, (f a).Spares) :
    (d.bind f).BlamesFirst := by
  cases first with
  | done o =>
    cases o with
    | value a => exact (second a).blamesFirst
    | failed e => exact .done _
    | stuck limit => exact .done _
  | ask goesOn => exact .ask fun reply => (goesOn reply).bind second

/-- What is computed without a search may blame the caller, and so may what comes next. -/
theorem ofExcept_bind {x : Except QueryError α} {f : α → Dialogue R β}
    (second : ∀ a, x = .ok a → (f a).BlamesFirst) : ((ofExcept x).bind f).BlamesFirst := by
  cases x with
  | ok a => exact second a rfl
  | error e => exact .done _

/-- What is computed first may blame the caller, and what comes of it spares the caller. -/
theorem of_found {x : Except QueryError α} {f : α → Dialogue R β}
    (found : ∀ a, x = .ok a → ((ofExcept x).bind f).Spares) : ((ofExcept x).bind f).BlamesFirst := by
  cases x with
  | ok a => exact (found a rfl).blamesFirst
  | error e => exact .done _

theorem bounded {d : Dialogue R α} (first : d.BlamesFirst) (seconds : Nat) (fault : BackendFault) :
    (d.bounded seconds fault).BlamesFirst := by
  cases first with
  | done o =>
    cases o with
    | stuck limit =>
      rw [Dialogue.bounded]
      split <;> exact .done _
    | value a => exact .done _
    | failed e => exact .done _
  | ask goesOn => exact .ask fun reply => (goesOn reply).bounded seconds fault

end BlamesFirst

end Dialogue

/-! ### What is read off an answer -/

theorem QueryError.spares_malformed (what : Malformation) : (malformed what).Spares := rfl

namespace Breakdown

theorem descend_spares (name : String) (depth : Nat) (part : Json R) :
    FailsOnly QueryError.Spares (descend name depth part) := by
  fun_induction descend name depth part with
  | case1 part result found => exact .ok _
  | case2 part missing => exact .error (QueryError.spares_malformed _)
  | case3 part depth inner found ih => exact ih
  | case4 part depth missing => exact .error (QueryError.spares_malformed _)

theorem unwrap_spares (nestedPath : List String) (name : String) (answer : Json R) :
    FailsOnly QueryError.Spares (unwrap nestedPath name answer) := by
  unfold unwrap
  split
  · exact descend_spares name _ _
  · exact .error (QueryError.spares_malformed _)

end Breakdown

theorem RowRequest.readRows_spares (answer : Json R) : FailsOnly QueryError.Spares (readRows answer) := by
  unfold readRows
  split
  · exact .ok _
  · exact .error (QueryError.spares_malformed _)

theorem readTotal_spares (answer : Json R) : FailsOnly QueryError.Spares (readTotal answer) := by
  unfold readTotal
  split
  · exact .error (QueryError.spares_malformed _)
  · split
    · exact .ok _
    · exact .error (QueryError.spares_malformed _)

variable [Scalar R]

namespace StatBucket

theorem ofJson_spares (stats : Json R) : FailsOnly QueryError.Spares (ofJson stats) := by
  unfold ofJson
  dsimp only
  split
  · exact .error (QueryError.spares_malformed _)
  · exact .ok _

theorem ofBin_spares (step : R) (bin : Json R) : FailsOnly QueryError.Spares (ofBin step bin) := by
  unfold ofBin
  split
  · exact .error (QueryError.spares_malformed _)
  · split
    · exact .error (QueryError.spares_malformed _)
    · refine (ofJson_spares _).bind fun bucket => ?_
      split
      · exact .error (QueryError.spares_malformed _)
      · exact .ok _

theorem ofBins_spares (step : R) (bins : List (Json R)) : FailsOnly QueryError.Spares (ofBins step bins) := by
  induction bins with
  | nil => exact .ok _
  | cons bin rest ih => exact (ofBin_spares step bin).bind fun _ => ih.bind fun _ => .ok _

end StatBucket

namespace TermTally

theorem count_spares (missingKey : Option String) (tally : TermTally) (bucket : Json R) :
    FailsOnly QueryError.Spares (tally.count missingKey bucket) := by
  unfold count
  split
  · exact .error (QueryError.spares_malformed _)
  · dsimp only
    split
    · exact .ok _
    · exact .ok _
    · split <;> exact .ok _

theorem countPage_spares (missingKey : Option String) (tally : TermTally) (page : List (Json R)) :
    FailsOnly QueryError.Spares (tally.countPage missingKey page) := by
  induction page generalizing tally with
  | nil => exact .ok _
  | cons bucket rest ih => exact (tally.count_spares missingKey bucket).bind ih

end TermTally

omit [Scalar R] in
theorem TermsRequest.Plan.readPage_spares (plan : Plan R) (answer : Json R) :
    FailsOnly QueryError.Spares (plan.readPage answer) := by
  refine (Breakdown.unwrap_spares _ _ _).bind fun listing => ?_
  split
  · exact .ok _
  · exact .error (QueryError.spares_malformed _)

/-! ### Enumerations, rows and totals -/

/-- Reading pages does not blame the caller, however many there are. -/
theorem TermsRequest.Plan.pages_spares (plan : Plan R) (patience : Nat) (after : Option (Json R))
    (tally : TermTally) : (plan.pages patience after tally).Spares := by
  induction patience generalizing after tally with
  | zero => exact .stuck none
  | succ patience ih =>
    refine (Dialogue.Spares.searchReading fun answer => ?_).bind fun page => ?_
    · refine (plan.readPage_spares answer).bind fun page => ?_
      exact (tally.countPage_spares _ _).bind fun _ => .ok _
    · obtain ⟨tally, cursor⟩ := page
      cases cursor with
      | some next => exact ih _ _
      | none => exact .value _

variable (ctx : Context) (index : String)

theorem TermsRequest.run_blamesFirst (req : TermsRequest R) : (req.run ctx index).BlamesFirst := by
  refine Dialogue.BlamesFirst.bounded (.ofExcept_bind fun plan _ => ?_) _ _
  exact ((plan.pages_spares _ _ _).bind fun _ => .value _).blamesFirst

theorem totalCount_blamesFirst (filter scope : Option (Filter R)) :
    (totalCount ctx index filter scope).BlamesFirst :=
  .ofExcept_bind fun _ _ => (Dialogue.Spares.searchReading readTotal_spares).blamesFirst

theorem RowRequest.run_blamesFirst (req : RowRequest R) : (req.run ctx index).BlamesFirst :=
  .ofExcept_bind fun _ _ => (Dialogue.Spares.searchReading readRows_spares).blamesFirst

/-! ### Statistics and histograms -/

namespace AggregationRequest

variable {ctx index} {req : AggregationRequest R}

/-- Statistics that can be asked for do not blame the caller. -/
theorem stats_spares {found : List String × Search R} (searched : req.statsSearch ctx index = .ok found) :
    (req.stats ctx index).Spares := by
  rw [stats, searched]
  refine Dialogue.Spares.searchReading fun answer => ?_
  exact (Breakdown.unwrap_spares _ _ _).bind fun _ => (StatBucket.ofJson_spares _).bind fun _ => .ok _

theorem stats_blamesFirst : (req.stats ctx index).BlamesFirst :=
  .of_found fun _ searched => stats_spares searched

/-- A histogram that can be asked for does not blame the caller. -/
theorem histogram_spares {start : Option R} {step : R} {found : List String × Search R}
    (searched : req.histogramSearch ctx index start step = .ok found) :
    (req.histogram ctx index start step).Spares := by
  rw [histogram, searched]
  refine Dialogue.Spares.searchReading fun answer => (Breakdown.unwrap_spares _ _ _).bind fun result => ?_
  split
  · exact StatBucket.ofBins_spares step _
  · exact .error (QueryError.spares_malformed _)

theorem histogram_blamesFirst (start : Option R) (step : R) :
    (req.histogram ctx index start step).BlamesFirst :=
  .of_found fun _ searched => histogram_spares searched

/-- Where statistics can be asked for, so can a histogram, from any start and with bins of any width: the field
and the filters are the same. -/
theorem exists_histogramSearch {found : List String × Search R}
    (searched : req.statsSearch ctx index = .ok found) (start : Option R) (step : R) :
    ∃ found, req.histogramSearch ctx index start step = .ok found := by
  obtain ⟨-, -, searched⟩ := bind_eq_ok_iff.mp searched
  obtain ⟨s, known, searched⟩ := bind_eq_ok_iff.mp searched
  obtain ⟨field, numeric, searched⟩ := bind_eq_ok_iff.mp searched
  obtain ⟨query, queried, -⟩ := bind_eq_ok_iff.mp searched
  obtain ⟨base, compiled, -⟩ := bind_eq_ok_iff.mp queried
  exact ⟨_, histogramSearch_eq_ok_iff.mpr ⟨s, field, base, known, numeric, compiled, rfl⟩⟩

/-- A layout that is derived from statistics is carried out without blaming the caller. -/
theorem runPlan_derivedPlan_spares {found : List String × Search R}
    (searched : req.statsSearch ctx index = .ok found) (bins : Int) (overall : StatBucket R) :
    (req.runPlan ctx index (req.derivedPlan bins overall)).Spares := by
  have lays : (req.derivedPlan bins overall).Lays := lays_derivedPlan bins overall
  generalize req.derivedPlan bins overall = plan at lays
  cases plan with
  | stats => exact lays.elim
  | empty => exact .value _
  | histogram start step =>
    obtain ⟨_, searched⟩ := exists_histogramSearch searched start step
    exact histogram_spares searched

theorem numeric_blamesFirst (req : AggregationRequest R) : (req.numeric ctx index).BlamesFirst := by
  rw [numeric, plan, Dialogue.bind_assoc]
  refine .ofExcept_bind fun _ _ => ?_
  cases req.rangeStep with
  | some step => exact histogram_blamesFirst _ _
  | none =>
    cases req.binCount with
    | none => exact stats_blamesFirst.bind fun _ => .value _
    | some bins =>
      rw [Dialogue.bind_assoc]
      cases searched : req.statsSearch ctx index with
      | ok found =>
        exact ((stats_spares searched).bind fun overall =>
          runPlan_derivedPlan_spares searched bins overall).blamesFirst
      | error e =>
        rw [stats, searched]
        exact .done _

/-! ### Contradictory arguments -/

/-- Arguments that lay out no bins, or no range. -/
inductive Contradictory (req : AggregationRequest R) : Prop where
  /-- A width and a number of bins. -/
  | stepAndBins (width : req.rangeStep.isSome) (number : req.binCount.isSome)
  /-- A width that is not positive. -/
  | step {step : R} (given : req.rangeStep = some step) (empty : Scalar.lt (Scalar.ofInt 0) step = false)
  /-- A number of bins that is not positive. -/
  | bins {bins : Int} (given : req.binCount = some bins) (none : bins ≤ 0)
  /-- A range that ends before it starts. -/
  | bounds {start stop : R} (lower : req.rangeStart = some start) (upper : req.rangeEnd = some stop)
      (reversed : Scalar.lt stop start = true)

/-- What is refused by the check is refused as the arguments of an aggregation. -/
theorem validate_failsOnly (req : AggregationRequest R) :
    FailsOnly (fun e => ∃ fault, e = .invalidAggregation fault) req.validate := by
  unfold validate
  repeat' split
  all_goals first | exact .ok _ | exact .error ⟨_, rfl⟩

/-- Arguments that pass the check do not contradict each other. -/
theorem not_contradictory_of_validate (valid : req.validate = .ok ()) : ¬req.Contradictory := by
  rintro (⟨width, number⟩ | ⟨given, empty⟩ | ⟨given, none⟩ | ⟨lower, upper, reversed⟩)
  · simp [validate, width, number, bind, Except.bind, throw, throwThe, MonadExceptOf.throw] at valid
  · cases empty.symm.trans (step_pos_of_validate given valid)
  · cases width : req.rangeStep <;>
      simp [validate, given, width, none, bind, Except.bind, throw, throwThe, MonadExceptOf.throw] at valid
  · -- whether or not a width and a number are given, and pass or not, the bounds come after them
    cases width : req.rangeStep <;> cases number : req.binCount <;>
      simp [validate, lower, upper, reversed, width, number, bind, Except.bind, throw, throwThe,
        MonadExceptOf.throw] at valid
    all_goals split at valid <;> cases valid

theorem exists_fault_of_contradictory (contradictory : req.Contradictory) :
    ∃ fault, req.validate = .error (.invalidAggregation fault) := by
  cases checked : req.validate with
  | ok valid => exact absurd contradictory (not_contradictory_of_validate checked)
  | error e =>
    obtain ⟨fault, rfl⟩ := req.validate_failsOnly e checked
    exact ⟨fault, rfl⟩

end AggregationRequest

/-- Against any backend, an enumeration, a numeric aggregation, statistics, a histogram by width or by number, a
total and rows that end with an error of the caller have asked for nothing. A mediated numeric aggregation with
contradictory arguments is refused for them, at any level, and has asked for nothing either. -/
theorem caller_blamed_unasked {σ : Type} (serve : Search R → σ → Reply R × σ) (state : σ) (ctx : Context)
    (index : String) :
    (∀ req : AggregationRequest R,
      ((req.terms ctx index).run serve state).BlamesUnasked ∧
      ((req.numeric ctx index).run serve state).BlamesUnasked ∧
      ((req.stats ctx index).run serve state).BlamesUnasked ∧
      (∀ step, ((req.histogramByStep ctx index step).run serve state).BlamesUnasked) ∧
      (∀ bins, ((req.histogramByCount ctx index bins).run serve state).BlamesUnasked)) ∧
    (∀ filter scope : Option (Filter R), ((totalCount ctx index filter scope).run serve state).BlamesUnasked) ∧
    (∀ req : RowRequest R, ((req.run ctx index).run serve state).BlamesUnasked) ∧
    ∀ (scope : Scope) (req : AggregationRequest R) (accessibility : Accessibility), req.Contradictory →
      ∃ fault, ((Mediation.mk ctx scope).numeric index req accessibility).run serve state =
        ⟨.failed (.invalidAggregation fault), [], state⟩ := by
  refine ⟨fun req => ⟨?_, ?_, ?_, fun step => ?_, fun bins => ?_⟩, fun filter scope => ?_, fun req => ?_, ?_⟩
  · exact (TermsRequest.run_blamesFirst ctx index _).run serve state
  · exact req.numeric_blamesFirst.run serve state
  · exact AggregationRequest.stats_blamesFirst.run serve state
  · exact (AggregationRequest.numeric_blamesFirst _).run serve state
  · exact (AggregationRequest.numeric_blamesFirst _).run serve state
  · exact (totalCount_blamesFirst ctx index filter scope).run serve state
  · exact (req.run_blamesFirst ctx index).run serve state
  · intro scope req accessibility contradictory
    obtain ⟨fault, refused⟩ := AggregationRequest.exists_fault_of_contradictory contradictory
    refine ⟨fault, ?_⟩
    rw [Mediation.numeric, refused]
    rfl

/-- The ages of subjects in no bins are refused whoever asks, and bins of a property that subjects do not have
are refused before their range is looked up. -/
theorem ages_in_no_bins_refused_unasked :
    (((Mediation.mk (Sample.context .regular) (Sample.scope ["/a"] ["/b"])).numeric "subject"
        { Sample.ages none with binCount := some 0 } .all).run Backend.serve (.store Sample.mixed false)).searches =
      [] ∧
    (({ Sample.ages none with field := "weight" }.histogramByCount (Sample.context .regular) "subject" 4).run
        Backend.serve (.store Sample.mixed false)).outcome =
      .failed (.invalidAggregation (.unknownField "weight" "subject")) ∧
    (({ Sample.ages none with field := "weight" }.histogramByCount (Sample.context .regular) "subject" 4).run
        Backend.serve (.store Sample.mixed false)).searches = [] := by
  obtain ⟨plain, -, -, mediated⟩ :=
    caller_blamed_unasked Backend.serve (.store Sample.mixed false) (Sample.context .regular) "subject"
  obtain ⟨fault, refused⟩ := mediated (Sample.scope ["/a"] ["/b"])
    { Sample.ages none with binCount := some 0 } .all (.bins rfl (Int.le_refl 0))
  have failed : (({ Sample.ages none with field := "weight" }.histogramByCount (Sample.context .regular) "subject"
      4).run Backend.serve (.store Sample.mixed false)).outcome =
        .failed (.invalidAggregation (.unknownField "weight" "subject")) := by
    with_unfolding_all rfl
  refine ⟨by rw [refused], failed, ?_⟩
  exact (plain { Sample.ages none with field := "weight" }).2.2.2.2 4 _ failed rfl

end TieredSearch
