import TieredSearch.Number.Rational
import TieredSearch.Proofs.Scope.Unresolved
import TieredSearch.Proofs.Tier.BareShadow
import TieredSearch.Proofs.Tier.RawRows
import TieredSearch.Proofs.Tier.TimeLimit
import TieredSearch.Proofs.Tier.UnaccessibleView

/-!
# Failing closed

Whoever's scope could not be resolved is shown nothing. Main statement (`unresolved_scope_sees_nothing`):
wherever the grants are missing or some listing fails, the scope holds no path and records why, and
from then on a regular or a restricted index counts as if it had no documents and gives no rows.

The decision asks for the paths out of reach before it looks at the scope. So there are two ways to see
nothing (`Mediation.act_onStore_of_blind`): where the listing is empty, no document passes the filter in
the first place, whatever restriction and whatever shadow the request then runs under; where it is not,
the request is restricted to a list of no path. Such a list can be asked of a text field only: where the
resource paths are numbers, a request that touches documents is refused instead.
-/

namespace TieredSearch

variable {R : Type} [Scalar R] {ctx : Context} {index : String} {st st' : Store R} {scope : Scope}

/-! ### Restrictions of a decision -/

namespace Decision

variable {s : Schema} {req : TierRequest R} {paths : List String} {decision : Decision R}

omit [Scalar R] in
/-- What a regular index may decide. -/
theorem eq_of_regular (decided : regular ctx scope req paths = .ok decision) :
    decision = passThrough ∨ decision = accessibleOnly scope ∨ decision = unaccessibleOnly ctx scope ∨
      decision = allWithRedaction ctx scope := by
  unfold regular at decided
  split at decided
  · split at decided <;> cases decided <;> simp
  · split at decided
    · split at decided <;> cases decided
      simp
    · split at decided
      · cases decided
        simp
      · split at decided <;> cases decided <;> simp

variable (known : ctx.schema index = .ok s) (texts : ctx.PathsAreTexts index) (marks : ctx.MarksTexts index)
  (auth : scope.authField = ctx.config.aggregation.authField)

include known texts auth

omit marks in
theorem stands_membership (listed : List String) :
    Filter.Stands ⟨s, ctx.missingAlias, ctx.config.aggregation.analyzedSuffix⟩
      (scope.membership listed : Filter R) := by
  obtain ⟨f, found, text⟩ := texts s known
  exact Scope.stands_membership (t := ⟨s, _, _⟩) (auth ▸ found) text listed

include marks

theorem stands_exclusion {x : Filter R} (exclusion : sensitiveExclusion ctx scope = some x) :
    Filter.Stands ⟨s, ctx.missingAlias, ctx.config.aggregation.analyzedSuffix⟩ x := by
  obtain ⟨name, sensitive, rfl⟩ := Option.map_eq_some_iff.mp exclusion
  obtain ⟨f, found, text⟩ := marks name s sensitive known
  exact (stands_membership known texts auth scope.accessible).anyOf (.differs found text "true")

theorem stands_narrowed (listed : List String) :
    Filter.Stands ⟨s, ctx.missingAlias, ctx.config.aggregation.analyzedSuffix⟩
      (Filter.narrowedBy (sensitiveExclusion ctx scope) (scope.membership listed) : Filter R) := by
  have member := stands_membership (R := R) known texts auth listed
  cases exclusion : (sensitiveExclusion ctx scope : Option (Filter R)) with
  | none => exact member
  | some x => exact (stands_exclusion known texts marks auth exclusion).allOf member

/-- Whatever is decided, its restrictions compile wherever they stand. -/
theorem stands_of_regular (decided : regular ctx scope req paths = .ok decision) {x : Filter R}
    (restricts : some x ∈ decision.restrictions) :
    Filter.Stands ⟨s, ctx.missingAlias, ctx.config.aggregation.analyzedSuffix⟩ x := by
  rcases eq_of_regular decided with rfl | rfl | rfl | rfl
  · simp [restrictions, passThrough] at restricts
  · obtain rfl : x = scope.accessibleMembership := by
      simpa [restrictions, accessibleOnly] using restricts
    exact stands_membership known texts auth _
  · obtain rfl : x = Filter.narrowedBy (sensitiveExclusion ctx scope) scope.unaccessibleMembership := by
      simpa [restrictions, unaccessibleOnly] using restricts
    exact stands_narrowed known texts marks auth _
  · obtain exclusion | rfl : some x = sensitiveExclusion ctx scope ∨
        x = Filter.narrowedBy (sensitiveExclusion ctx scope) scope.unaccessibleMembership := by
      simpa [restrictions, allWithRedaction] using restricts
    · exact stands_exclusion known texts marks auth exclusion.symm
    · exact stands_narrowed known texts marks auth _

end Decision

/-! ### Seeing nothing -/

/-- What excludes every document does so under every restriction. -/
theorem Context.Excludes.under {user : Option (Filter R)} {excludeField : Option String} {filterSelf : Bool}
    (nothing : ctx.Excludes st index user excludeField filterSelf none) (extra : Option (Filter R)) :
    ctx.Excludes st index user excludeField filterSelf extra := by
  intro query compiled
  obtain ⟨plain, compiled'⟩ := Context.exists_compileFilter_none compiled
  refine List.filter_eq_nil_iff.mpr fun doc stored admitted => ?_
  have passed := Context.admits_of_compileFilter compiled' compiled admitted
  exact List.filter_eq_nil_iff.mp (nothing plain compiled') doc stored passed

theorem Context.excludes_of_empty (empty : st.documents index = []) (user : Option (Filter R))
    (excludeField : Option String) (filterSelf : Bool) (extra : Option (Filter R)) :
    ctx.Excludes st index user excludeField filterSelf extra := by
  intro query _
  rw [Store.selected, empty]
  rfl

namespace Call

variable {s : Schema} {call : Call R}

theorem compilesLike_of_stands (known : ctx.schema index = .ok s) {x : Filter R}
    (stands : Filter.Stands ⟨s, ctx.missingAlias, ctx.config.aggregation.analyzedSuffix⟩ x) (call : Call R) :
    call.CompilesLike ctx index none (some x) := by
  rw [CompilesLike, Filter.both_none, Context.compileFilter_eq known, Context.compileFilter_eq known]
  exact Filter.compile_agree_both stands _ _ _ _

/-- Whoever sees nothing of two stores sees the same of them. -/
theorem CompilesLike.sameView {x x' : Option (Filter R)} (like : call.CompilesLike ctx index x x')
    (nothing : ctx.Excludes st index call.filter call.excludeField call.filterSelf
      (Filter.both call.restriction x))
    (nothing' : ctx.Excludes st' index call.filter call.excludeField call.filterSelf
      (Filter.both call.restriction x')) :
    call.SameView ctx index st st' x x' :=
  Agree.of_ok like fun query query' compiled compiled' => by
    rw [SelectSame, nothing query compiled, nothing' query' compiled']

end Call

namespace Mediation

variable {call : Call R} {decision : Decision R}

/-- A call that sees nothing under the restrictions of its decision ends as the plain operation does on an
index without documents. -/
theorem act_onStore_of_blind
    (like : ∀ x ∈ decision.restrictions, call.CompilesLike ctx index none x)
    (blind : ∀ x ∈ decision.restrictions, ctx.Excludes st index call.filter call.excludeField call.filterSelf
      (Filter.both call.restriction x))
    (patient : 0 < ctx.patience) (empty : st'.documents index = []) :
    ((Mediation.mk ctx scope).act index decision call).onStore st =
      (call.under ctx index none).onStore st' := by
  have first : decision.scopeFilter ∈ decision.restrictions := List.mem_cons_self
  have plain : (call.limited ctx index decision.scopeFilter).onStore st =
      (call.under ctx index none).onStore st' := by
    rw [← call.limited_onStore]
    exact Call.limited_onStore_eq
      ((like _ first).symm.sameView (blind _ first) (Context.excludes_of_empty empty _ _ _ _))
  cases shadowed : decision.shadowFilter with
  | none => rw [act_of_unshadowed _ _ shadowed, plain]
  | some x =>
    have second : some x ∈ decision.restrictions := by simp [Decision.restrictions, shadowed]
    rw [act_onStore_of_bare shadowed ((like _ first).symm.trans (like _ second)) (blind _ second) patient,
      plain]

variable {s : Schema} (known : ctx.schema index = .ok s) (texts : ctx.PathsAreTexts index)
  (marks : ctx.MarksTexts index) (auth : scope.authField = ctx.config.aggregation.authField)
  (blind : scope.accessible = []) (patient : 0 < ctx.patience) (empty : st'.documents index = [])

include known texts auth blind patient empty

omit marks in
/-- Restricted to the accessible documents of a scope without any, a call sees nothing. -/
theorem act_onStore_of_accessibleOnly (st : Store R) (call : Call R) :
    ((Mediation.mk ctx scope).act index (.accessibleOnly scope) call).onStore st =
      (call.under ctx index none).onStore st' := by
  obtain ⟨f, found, -⟩ := texts s known
  have only {x : Option (Filter R)} (restricts : x ∈ (Decision.accessibleOnly scope).restrictions) :
      x = some scope.accessibleMembership := List.mem_singleton.mp restricts
  refine act_onStore_of_blind (fun x restricts => ?_) (fun x restricts => ?_) patient empty
  · rw [only restricts]
    exact Call.compilesLike_of_stands known (Decision.stands_membership known texts auth _) call
  · rw [only restricts]
    exact Scope.excludes_accessibleMembership blind known (auth ▸ found) st _ _ _ _

variable {query : Option (Query R)} {paths : List String}

include marks

/-- On a regular index, a call of a scope that could not be resolved sees nothing or is forbidden, if the
listing of the paths out of reach is empty only where no document passes the filter. -/
theorem decided_onStore_of_blind (accessibility : Accessibility) (degraded : scope.isDegraded = true)
    (compiled : ctx.compileFilter index call.filter call.excludeField call.filterSelf none = .ok query)
    (bare : paths.isEmpty = true → st.selected index query = []) :
    (∃ decision, Decision.regular ctx scope (call.tierRequest accessibility) paths = .ok decision ∧
      ((Mediation.mk ctx scope).act index decision call).onStore st =
        (call.under ctx index none).onStore st') ∨
    call.isRaw = true ∧
      Decision.regular ctx scope (call.tierRequest accessibility) paths = .error .forbidden := by
  by_cases within : paths.isEmpty = true
  · -- whatever the decision, no document passes the filter
    have nothing : ctx.Excludes st index call.filter call.excludeField call.filterSelf none := by
      intro plain compiled'
      cases compiled.symm.trans compiled'
      exact bare within
    obtain ⟨decision, decided⟩ : ∃ decision,
        Decision.regular ctx scope (call.tierRequest accessibility) paths = .ok decision :=
      Decision.exists_regular_of_isEmpty within
    refine .inl ⟨decision, decided, ?_⟩
    refine act_onStore_of_blind (fun x restricts => ?_) (fun x _ => nothing.under _) patient empty
    cases x with
    | none => exact Agree.refl (fun _ => trivial) _
    | some x =>
      have stands := Decision.stands_of_regular known texts marks auth decided restricts
      exact Call.compilesLike_of_stands known stands call
  · have restricted := act_onStore_of_accessibleOnly known texts auth blind patient empty st call
    cases raw : call.isRaw with
    | false => exact .inl ⟨_, Decision.regular_of_isDegraded degraded raw within, restricted⟩
    | true =>
      rw [Decision.regular_of_rawData raw within]
      split
      · exact .inl ⟨_, rfl, restricted⟩
      · exact .inr ⟨rfl, rfl⟩

omit marks in
/-- A restricted index answers a scope without any accessible path as if it had no documents. -/
theorem answer_onStore_of_restricted (served : ctx.config.effectiveLevel index = some .restricted)
    (accessibility : Accessibility) (call : Call R) (st : Store R) :
    ((Mediation.mk ctx scope).answer index accessibility call).onStore st =
      (call.under ctx index none).onStore st' := by
  rw [answer_onStore, Decision.make_of_restricted (Decision.level_eq_ok known served)]
  cases valid : call.validate with
  | error e => exact (call.under_onStore_of_invalid valid none).symm
  | ok _ => exact act_onStore_of_accessibleOnly known texts auth blind patient empty st call

/-- Where the filter of a call compiles, a scope that could not be resolved is answered as if there were no
documents, or its rows are forbidden. -/
theorem answer_onStore_of_blind (accessibility : Accessibility)
    (served : ctx.config.effectiveLevel index = some .regular ∨
      ctx.config.effectiveLevel index = some .restricted) (degraded : scope.isDegraded = true)
    (compiled : ctx.compileFilter index call.filter call.excludeField call.filterSelf none = .ok query)
    (listed : ∃ paths,
      (scope.outOfScope ctx index call.filter call.excludeField call.filterSelf).onStore st = .value paths ∧
        (paths.isEmpty = true → st.selected index query = [])) :
    ((Mediation.mk ctx scope).answer index accessibility call).onStore st =
      (call.under ctx index none).onStore st' ∨
    call.isRaw = true ∧
      ((Mediation.mk ctx scope).answer index accessibility call).onStore st = .failed .forbidden := by
  rcases served with regular | restricted
  · obtain ⟨paths, listed, bare⟩ := listed
    have made : (Decision.make ctx scope index (call.tierRequest accessibility)).onStore st =
        .ofExcept (Decision.regular ctx scope (call.tierRequest accessibility) paths) := by
      rw [Decision.make_of_regular (Decision.level_eq_ok known regular), Dialogue.onStore_bind]
      exact (congrArg (Outcome.bind · _) listed).trans (Dialogue.onStore_ofExcept _ _)
    rw [answer_onStore, made]
    rcases decided_onStore_of_blind known texts marks auth blind patient empty accessibility degraded compiled
      bare with ⟨decision, decided, blank⟩ | ⟨raw, forbidden⟩
    · rw [decided]
      refine .inl ?_
      cases valid : call.validate with
      | error e => exact (call.under_onStore_of_invalid valid none).symm
      | ok _ => exact blank
    · rw [forbidden]
      refine .inr ⟨raw, ?_⟩
      cases call with
      | rows req => rfl
      | _ => cases raw
  · exact .inl (answer_onStore_of_restricted known texts auth blind patient empty restricted accessibility call
      st)

end Mediation

/-! ### The whole -/

/-- An index shows nothing: it counts as if it had no documents, and gives no rows. -/
structure Mediation.SeesNothing (m : Mediation) (index : String) (st : Store R) : Prop where
  /-- Whatever is counted is counted as on an index without documents. -/
  counts : ∀ (accessibility : Accessibility) (call : Call R), call.isRaw = false →
    ∀ st' : Store R, st'.documents index = [] →
      (m.answer index accessibility call).onStore st = (m.answer index accessibility call).onStore st'
  /-- There, unless the filter is refused, it is counted as without mediation. -/
  plain : ∀ (accessibility : Accessibility) (call : Call R) (query : Option (Query R)), call.isRaw = false →
    m.ctx.compileFilter index call.filter call.excludeField call.filterSelf none = .ok query →
      ∀ st' : Store R, st'.documents index = [] →
        (m.answer index accessibility call).onStore st = (call.under m.ctx index none).onStore st'
  /-- Rows that would be given without mediation are not, or they are forbidden. -/
  rows : ∀ (accessibility : Accessibility) (req : RowRequest R) (rows : List (Json R)),
    (req.run m.ctx index).onStore st = .value rows →
      (m.answer index accessibility (.rows req)).onStore st = .value (.rows []) ∨
        (m.answer index accessibility (.rows req)).onStore st = .failed .forbidden

/-- Valid rows are none where there are no documents. -/
theorem RowRequest.run_onStore_of_empty {req : RowRequest R} {rows : List (Json R)}
    (valid : (req.run ctx index).onStore st = .value rows) (empty : st'.documents index = []) :
    (req.run ctx index).onStore st' = .value [] := by
  rw [run, Dialogue.onStore_bind, Outcome.bind_eq_value_iff] at valid
  obtain ⟨s, searched, -⟩ := valid
  rw [Dialogue.onStore_ofExcept, Outcome.ofExcept_eq_value_iff] at searched
  rw [run, searched, Dialogue.ofExcept_ok, Dialogue.value_bind, Dialogue.onStore_searchReading]
  obtain ⟨query, -, searched⟩ := bind_eq_ok_iff.mp searched
  obtain ⟨sort, -, same⟩ := bind_eq_ok_iff.mp searched
  cases same
  have nothing : st'.selected index query = [] := by
    rw [Store.selected, empty]
    rfl
  have unsorted (clauses : List SortClause) : Store.sortAll ([] : List (Json R)) clauses = [] :=
    List.eq_nil_iff_forall_not_mem.mpr fun doc h => List.not_mem_nil (Store.mem_sortAll.mp h)
  rw [Store.readRows_answer, nothing, unsorted]
  simp

namespace Mediation

section Degraded

variable (texts : ctx.PathsAreTexts index) (marks : ctx.MarksTexts index)
  (served : ctx.config.effectiveLevel index = some .regular ∨
    ctx.config.effectiveLevel index = some .restricted)
  (auth : scope.authField = ctx.config.aggregation.authField) (blind : scope.accessible = [])
  (degraded : scope.isDegraded = true)

include texts marks served auth blind degraded

section Compiled

variable {call : Call R} {query : Option (Query R)} (empty : st'.documents index = [])
  (compiled : ctx.compileFilter index call.filter call.excludeField call.filterSelf none = .ok query)

include empty compiled

/-- On an index without documents, the listing is empty. -/
theorem answer_onStore_of_empty (accessibility : Accessibility) (patient : 0 < ctx.patience) :
    ((Mediation.mk ctx scope).answer index accessibility call).onStore st' =
      (call.under ctx index none).onStore st' ∨
    call.isRaw = true ∧
      ((Mediation.mk ctx scope).answer index accessibility call).onStore st' = .failed .forbidden := by
  obtain ⟨s, known⟩ := Context.exists_schema_of_compileFilter compiled
  have nothing : st'.selected index query = [] := by
    rw [Store.selected, empty]
    rfl
  have unlisted := Scope.outOfScope_onStore_of_nothing texts auth compiled nothing patient
  exact answer_onStore_of_blind known texts marks auth blind patient empty accessibility served degraded
    compiled ⟨[], unlisted, fun _ => nothing⟩

/-- On an index with documents, it is empty only where none passes the filter. -/
theorem answer_onStore_of_small [Scalar.StrictOrder R] (accessibility : Accessibility)
    (valid : ctx.config.validate = .ok ()) (patient : st.size < ctx.patience)
    (small : st.size < Number.signedBound) :
    ((Mediation.mk ctx scope).answer index accessibility call).onStore st =
      (call.under ctx index none).onStore st' ∨
    call.isRaw = true ∧
      ((Mediation.mk ctx scope).answer index accessibility call).onStore st = .failed .forbidden := by
  obtain ⟨s, known⟩ := Context.exists_schema_of_compileFilter compiled
  obtain ⟨paths, listed, bare⟩ :=
    Scope.exists_outOfScope_of_blind texts auth compiled blind valid patient small
  exact answer_onStore_of_blind known texts marks auth blind (Nat.zero_lt_of_lt patient) empty accessibility
    served degraded compiled ⟨paths, listed, bare.mp⟩

end Compiled

/-- A scope that could not be resolved is shown nothing, by a regular index and by a restricted one. -/
theorem seesNothing_of_degraded [Scalar.StrictOrder R] (valid : ctx.config.validate = .ok ())
    (patient : st.size < ctx.patience) (small : st.size < Number.signedBound) :
    (Mediation.mk ctx scope).SeesNothing index st := by
  have started : 0 < ctx.patience := Nat.zero_lt_of_lt patient
  constructor
  case counts =>
    intro accessibility call counts st' empty
    have spared : ¬call.isRaw = true := by simp [counts]
    cases known : ctx.schema index with
    | error e =>
      rw [answer_onStore, answer_onStore, Decision.make, Decision.level_eq_error known]
      rfl
    | ok s =>
      cases compiled : ctx.compileFilter index call.filter call.excludeField call.filterSelf none with
      | error e =>
        rcases served with regular | restricted
        · have refused := Decision.make_onStore_of_refused texts auth regular (call.tierRequest accessibility)
            compiled
          rw [answer_onStore, answer_onStore, refused, refused]
          rfl
        · have alike := answer_onStore_of_restricted known texts auth blind started empty restricted
            accessibility call
          rw [alike st, alike st']
      | ok query =>
        have here := answer_onStore_of_small texts marks served auth blind degraded empty compiled
          accessibility valid patient small
        have there := answer_onStore_of_empty texts marks served auth blind degraded empty compiled
          accessibility started
        rw [here.resolve_right fun raw => spared raw.1, there.resolve_right fun raw => spared raw.1]
  case plain =>
    intro accessibility call query counts compiled st' empty
    have spared : ¬call.isRaw = true := by simp [counts]
    have here := answer_onStore_of_small texts marks served auth blind degraded empty compiled accessibility
      valid patient small
    exact here.resolve_right fun raw => spared raw.1
  case rows =>
    intro accessibility req rows answered
    obtain ⟨query, compiled, -⟩ := RowRequest.mem_of_run_onStore answered
    obtain ⟨query, compiled⟩ : ∃ query, ctx.compileFilter index (Call.rows req).filter
        (Call.rows req).excludeField (Call.rows req).filterSelf none = .ok query :=
      Context.exists_compileFilter_none compiled
    have empty : (Store.mk [] : Store R).documents index = [] := rfl
    have none : ((Call.rows req).under ctx index none).onStore ⟨[]⟩ = .value (.rows []) := by
      rw [Call.under, Filter.both_none, Dialogue.onStore_map, RowRequest.run_onStore_of_empty answered empty]
      rfl
    rw [← none]
    have here := answer_onStore_of_small texts marks served auth blind degraded empty compiled accessibility
      valid patient small
    exact here.imp_right And.right

end Degraded

end Mediation

/-- A scope fails closed: without grants, or where the listing of some index has no value, it holds no path
and records the first error there was, and from then on it is shown nothing, whatever the documents
hold. -/
theorem unresolved_scope_sees_nothing [Scalar.StrictOrder R] (valid : ctx.config.validate = .ok ())
    {grants : Except (List String) GrantTable} {σ : Type} {serve : Search R → σ → Reply R × σ} {state : σ}
    (failed : (∃ reasons, grants = .error reasons) ∨
      ∃ o ∈ Scope.listingOutcomes ctx serve state, ∀ buckets, o ≠ .value buckets) :
    ∃ cause after,
      Scope.cause? grants (Scope.listingOutcomes ctx serve state) = some cause ∧
      (Scope.resolve ctx grants : Dialogue R Scope).Yields serve state
        (.degraded ctx.config.aggregation.authField cause) after ∧
      ∀ (st : Store R) (index : String), st.size < ctx.patience → st.size < Number.signedBound →
        ctx.PathsAreTexts index → ctx.MarksTexts index →
        (ctx.config.effectiveLevel index = some .regular ∨
          ctx.config.effectiveLevel index = some .restricted) →
        (Mediation.mk ctx (.degraded ctx.config.aggregation.authField cause)).SeesNothing index st := by
  obtain ⟨cause, first⟩ := Scope.exists_cause failed
  obtain ⟨after, resolved⟩ := Scope.exists_resolve_of_cause first
  refine ⟨cause, after, first, resolved, fun st index patient small texts marks served => ?_⟩
  exact Mediation.seesNothing_of_degraded texts marks served rfl rfl rfl valid patient small

/-- Where no page of the listing ever came, two subjects are not counted later on. -/
theorem subjects_not_counted_after_silence :
    ∃ after, (Scope.resolve (Sample.context .regular) (Sample.granting "/a")).Yields Backend.serve
        (.script [.silence] : Backend Rat)
        (.degraded "auth_resource_path" (.backendUnavailable (.enumerationTimedOut "auth_resource_path"))) after ∧
      ((Mediation.mk (Sample.context .regular) (.degraded "auth_resource_path"
        (.backendUnavailable (.enumerationTimedOut "auth_resource_path")))).answer "subject" .all
          (.total none)).onStore Sample.mixed = .value (.total 0) := by
  have valid : (Sample.context .regular).config.validate = .ok () := rfl
  have outcomes : Scope.listingOutcomes (Sample.context .regular) Backend.serve
      (.script [.silence] : Backend Rat) = [.stuck (some (.enumerationTimedOut "auth_resource_path"))] := rfl
  have failed : (∃ reasons, Sample.granting "/a" = .error reasons) ∨
      ∃ o ∈ Scope.listingOutcomes (Sample.context .regular) Backend.serve (.script [.silence] : Backend Rat),
        ∀ buckets, o ≠ .value buckets := by
    refine .inr ⟨_, outcomes ▸ List.mem_singleton.mpr rfl, ?_⟩
    rintro buckets ⟨⟩
  obtain ⟨cause, after, first, resolved, sees⟩ := unresolved_scope_sees_nothing valid failed
  rw [outcomes] at first
  cases first
  have marks : (Sample.context .regular).MarksTexts "subject" := by
    rintro name s ⟨⟩
  have shown := sees Sample.mixed "subject" (by decide) (by decide) (Sample.rooted .regular).pathsAreTexts marks
    (.inl rfl)
  refine ⟨after, resolved, (shown.counts .all (.total none) rfl (Sample.store []) rfl).trans ?_⟩
  rfl

/-- A site whose resource paths are numbers. -/
def Sample.numbered : Context := {
  Sample.context .regular with
  registry := {
    entries := [("subject", {
      schema := {
        index := "subject"
        contentHash := ""
        fields :=
          [⟨"auth_resource_path", .numeric, [], false, false⟩, ⟨"age", .numeric, [], false, false⟩] }
      stamp := 0 })] } }

/-- A subject with a number as its path. -/
def Sample.numberedSubject : Json Rat := .obj [("auth_resource_path", .int 7), ("age", .int 10)]

/-- Where the paths are numbers, the restriction to accessible documents is refused: without grants, the
subjects of such an index are not counted as none, and their rows are not forbidden. -/
theorem numbered_subjects_refused :
    Sample.numbered.config.validate = .ok () ∧
    (∃ s f, Sample.numbered.schema "subject" = .ok s ∧
      s.field? Sample.numbered.config.aggregation.authField = some f) ∧
    Sample.numbered.config.tier.sensitiveField = none ∧
    Sample.numbered.config.effectiveLevel "subject" = some .regular ∧
    ∃ scope, (Scope.resolve Sample.numbered (.error ["policy service timed out"])).onStore
        (Sample.store [Sample.numberedSubject]) = .value scope ∧
      ((Mediation.mk Sample.numbered scope).answer "subject" .accessible (.total none)).onStore
          (Sample.store []) = .value (.total 0) ∧
      ((Mediation.mk Sample.numbered scope).answer "subject" .accessible (.total none)).onStore
          (Sample.store [Sample.numberedSubject]) =
        .failed (.invalidFilter (.unsupportedOperator .among .numeric "auth_resource_path")) ∧
      ((Mediation.mk Sample.numbered scope).answer "subject" .accessible
          (.rows ⟨none, [], .null, 0, none, none⟩)).onStore (Sample.store [Sample.numberedSubject]) =
        .failed (.invalidFilter (.unsupportedOperator .among .numeric "auth_resource_path")) := by
  refine ⟨rfl, ⟨_, _, rfl, rfl⟩, rfl, rfl, _, rfl, ?_, ?_, ?_⟩
  · rfl
  · rfl
  · rfl

end TieredSearch
