import TieredSearch.Number.Rational
import TieredSearch.Proofs.Tier.Call
import TieredSearch.Proofs.Tier.Decision

/-!
# The accessible view

A restricted index, and a regular one asked for its accessible part, show the caller a view of the
accessible documents. Main statement (`answer_of_accessible_documents`): the answer to a call
depends on those documents only, and the two levels give one answer. On a regular index the decision
may be not to restrict the call at all; that it makes no difference then is
`passThrough_onStore_eq`, as an empty listing of paths out of scope means that every matching
document is accessible.
-/

namespace TieredSearch

open Document (textsAt holdsTexts)

variable {R : Type} [Scalar R]

/-! ### Calls under the restriction to accessible documents -/

namespace Call

variable {ctx : Context} {index : String} {st st' : Store R} {scope : Scope}

/-- Under the restriction to accessible documents, stores that agree on the accessible documents end
a call alike. -/
theorem accessible_onStore_eq (rooted : ctx.Rooted index) (names : scope.NamesPaths ctx)
    (texts : ∀ doc ∈ st.documents index, holdsTexts doc scope.authField = true)
    (texts' : ∀ doc ∈ st'.documents index, holdsTexts doc scope.authField = true)
    (visible : (st.documents index).filter scope.reaches = (st'.documents index).filter scope.reaches)
    (call : Call R) :
    (call.limited ctx index (some scope.accessibleMembership)).onStore st =
      (call.limited ctx index (some scope.accessibleMembership)).onStore st' := by
  have alike : (call.limited ctx index (some scope.accessibleMembership)).Alike
      (Search.Rel index fun q q' => q = q' ∧ ∀ doc, Query.admits q doc = true →
        (scope.accessibleClause : Query R).selects doc = true)
      (call.limited ctx index (some scope.accessibleMembership)) := by
    refine limited_alike ?_ ?_
    · rintro q _ ⟨rfl, within⟩ clauses
      refine ⟨rfl, fun doc admitted => within doc ?_⟩
      rw [Query.admits_beside, Bool.and_eq_true] at admitted
      exact admitted.1
    · refine (Scope.compileFilter_accessible rooted names _ _ _ _).right ?_
      intro before after narrowed doc admitted
      rw [narrowed, Bool.and_eq_true] at admitted
      exact admitted.2
  refine alike.onStore_eq ?_
  rintro s s' ⟨here, there, purpose, same, within⟩
  refine Store.answer_congr purpose ?_
  rw [here, there, ← same]
  have seen (st : Store R) (texts : ∀ doc ∈ st.documents index, holdsTexts doc scope.authField = true) :
      st.selected index s.query = ((st.documents index).filter scope.reaches).filter (Query.admits s.query) := by
    rw [Store.selected, List.filter_filter]
    refine List.filter_congr fun doc stored => ?_
    have reached := within doc
    rw [Scope.selects_accessibleClause (texts doc stored)] at reached
    rw [Bool.eq_iff_iff, Bool.and_eq_true]
    exact iff_self_and.mpr reached
  exact (seen st texts).trans ((congrArg _ visible).trans (seen st' texts').symm)

/-- Where the scope reaches every document that passes the caller's filter, the restriction to
accessible documents makes no difference. -/
theorem passThrough_onStore_eq (rooted : ctx.Rooted index) (names : scope.NamesPaths ctx)
    (texts : ∀ doc ∈ st.documents index, holdsTexts doc scope.authField = true) {call : Call R}
    {query : Option (Query R)}
    (compiled : ctx.compileFilter index call.filter call.excludeField call.filterSelf none = .ok query)
    (reached : ∀ doc ∈ st.selected index query, scope.reaches doc = true) :
    (call.limited ctx index none).onStore st =
      (call.limited ctx index (some scope.accessibleMembership)).onStore st := by
  have alike : (call.limited ctx index none).Alike
      (Search.Rel index fun q q' => (∀ doc, Query.admits q doc = true → Query.admits query doc = true) ∧
        ∀ doc, Query.admits q' doc = (Query.admits q doc && (scope.accessibleClause : Query R).selects doc))
      (call.limited ctx index (some scope.accessibleMembership)) := by
    refine limited_alike ?_ ?_
    · rintro q q' ⟨within, narrowed⟩ clauses
      refine ⟨fun doc admitted => within doc ?_, fun doc => ?_⟩
      · rw [Query.admits_beside, Bool.and_eq_true] at admitted
        exact admitted.1
      · rw [Query.admits_beside, Query.admits_beside, narrowed, Bool.and_right_comm]
    · have narrowed := Scope.compileFilter_accessible rooted names call.filter
        call.excludeField call.filterSelf call.restriction
      rw [Filter.both_none]
      exact narrowed.left fun q compiled' doc => Context.admits_of_compileFilter compiled compiled'
  refine alike.onStore_eq ?_
  rintro s s' ⟨here, there, purpose, within, narrowed⟩
  refine Store.answer_congr purpose ?_
  rw [here, there]
  refine List.filter_congr fun doc stored => ?_
  rw [narrowed, Bool.eq_iff_iff, Bool.and_eq_true]
  refine iff_self_and.mpr fun admitted => ?_
  rw [Scope.selects_accessibleClause (texts doc stored)]
  exact reached doc (List.mem_filter.mpr ⟨stored, within doc admitted⟩)

end Call

/-! ### Levels that show the accessible view -/

/-- What is checked before a call is carried out: its arguments and the level of the index, and on a
regular index that the caller's filter compiles. -/
def Call.checked (ctx : Context) (index : String) (call : Call R) : Except QueryError Unit := do
  call.validate
  match ← Decision.level ctx index with
  | .restricted | .libre => return ()
  | .regular | .granular =>
    let _ ← ctx.compileFilter index call.filter call.excludeField call.filterSelf none
    return ()

/-- Where an index shows the accessible view, a call that is checked is the plain operation under
the restriction to accessible documents. -/
theorem Mediation.answer_onStore_eq {m : Mediation} {index : String} {st : Store R}
    {accessibility : Accessibility}
    (serves : m.ctx.Serves st) (rooted : m.ctx.Rooted index) (names : m.scope.NamesPaths m.ctx)
    (shows : m.ctx.ShowsAccessible index accessibility) (call : Call R) :
    (m.answer index accessibility call).onStore st =
      (Outcome.ofExcept (call.checked m.ctx index)).bind fun _ =>
        (call.limited m.ctx index (some m.scope.accessibleMembership)).onStore st := by
  rw [answer_eq, Dialogue.onStore_bind, Dialogue.onStore_ofExcept, Call.checked]
  cases call.validate with
  | error e => rfl
  | ok _ =>
    simp only [Outcome.ofExcept_ok, Outcome.value_bind, Dialogue.onStore_bind]
    have restricted : m.act index (.accessibleOnly m.scope) call =
        call.limited m.ctx index (some m.scope.accessibleMembership) :=
          act_of_unshadowed m index rfl call
    cases known : m.ctx.schema index with
    | error e => simp [Decision.make, Decision.level_eq_error known, bind, Except.bind]
    | ok s =>
      rcases shows with served | ⟨served, rfl⟩
      · have level := Decision.level_eq_ok known served
        rw [Decision.make_of_restricted level, level, Dialogue.onStore_done, Outcome.value_bind,
          restricted]
        rfl
      · rw [Decision.level_eq_ok known served]
        simp only [bind, Except.bind]
        cases compiled : m.ctx.compileFilter index call.filter call.excludeField call.filterSelf none with
        | error e =>
          rw [Decision.make_onStore_of_error rooted names served (call.tierRequest .accessible) compiled]
          rfl
        | ok query =>
          obtain ⟨paths, made, owned⟩ :=
            Decision.exists_make_onStore serves rooted names served (call.tierRequest .accessible) compiled
          rw [made, Decision.regular_of_accessible rfl, Outcome.ofExcept_ok, Outcome.value_bind]
          by_cases within : paths.isEmpty = true
          · rw [if_pos within, act_of_unshadowed m index rfl]
            refine Call.passThrough_onStore_eq rooted names (fun doc stored => ?_) compiled fun doc stored => ?_
            · exact names.authField ▸ serves.texts index doc stored
            · exact (Bool.and_eq_true _ _ ▸ owned.mp within doc stored).1
          · rw [if_neg within, restricted]
            rfl

/-! ### Contexts with the same data -/

/-- Two contexts that differ in nothing but what they disclose: the levels and what goes with
them. -/
structure Context.SameData (ctx ctx' : Context) : Prop where
  /-- The same schemas have been read. -/
  registry : ctx'.registry = ctx.registry
  /-- Listings may read the same number of pages. -/
  patience : ctx'.patience = ctx.patience
  /-- Aggregations work alike. -/
  aggregation : ctx'.config.aggregation = ctx.config.aggregation
  /-- Grants are looked up alike. -/
  policy : ctx'.config.policy = ctx.config.policy
  /-- The same indices are configured. -/
  indexNames : ctx'.config.indexNames = ctx.config.indexNames

namespace Context.SameData

variable {ctx ctx' : Context}

omit [Scalar R]

theorem schema_eq (same : ctx.SameData ctx') (index : String) :
    ctx'.schema index = ctx.schema index := by
  have configured (c : Config) : (c.index? index).isNone = !c.indexNames.contains index := by
    rw [Bool.eq_iff_iff]
    simp [Config.index?, Config.indexNames]
  rw [Context.schema, Context.schema, configured, configured, same.indexNames, same.registry]

theorem listsPaths_eq (same : ctx.SameData ctx') : ctx'.listsPaths = ctx.listsPaths := by
  funext index
  rw [Context.listsPaths, Context.listsPaths, same.schema_eq, same.aggregation]

theorem missingAlias_eq (same : ctx.SameData ctx') : ctx'.missingAlias = ctx.missingAlias := by
  rw [Context.missingAlias, Context.missingAlias, Config.missingAlias, Config.missingAlias,
    same.aggregation]

theorem grantedPaths_eq (same : ctx.SameData ctx') (grants : Except (List String) GrantTable) :
    ctx'.grantedPaths grants = ctx.grantedPaths grants := by
  unfold Context.grantedPaths Scope.readablePaths
  rw [same.policy]

theorem accessiblePaths_eq (same : ctx.SameData ctx') (grants : Except (List String) GrantTable) :
    ctx'.accessiblePaths grants = ctx.accessiblePaths grants := by
  rw [Context.accessiblePaths, Context.accessiblePaths, same.indexNames, same.listsPaths_eq,
    same.grantedPaths_eq]

variable [Scalar R]

theorem compileFilter_eq (same : ctx.SameData ctx') (index : String) (user : Option (Filter R))
    (excludeField : Option String) (filterSelf : Bool) (extra : Option (Filter R)) :
    ctx'.compileFilter index user excludeField filterSelf extra =
      ctx.compileFilter index user excludeField filterSelf extra := by
  simp only [Context.compileFilter, Context.target, same.schema_eq, same.missingAlias_eq,
    same.aggregation]

theorem terms_run_eq (same : ctx.SameData ctx') (index : String) (req : TermsRequest R) :
    req.run ctx' index = req.run ctx index := by
  simp only [TermsRequest.run, TermsRequest.enumerate, TermsRequest.plan, Context.timeLimit,
    same.schema_eq, same.compileFilter_eq, same.aggregation, same.patience]

theorem stats_eq (same : ctx.SameData ctx') (index : String) (req : AggregationRequest R) :
    req.stats ctx' index = req.stats ctx index := by
  simp only [AggregationRequest.stats, AggregationRequest.statsSearch,
    AggregationRequest.boundedQuery, same.schema_eq, same.compileFilter_eq]

theorem numeric_eq (same : ctx.SameData ctx') (index : String) (req : AggregationRequest R) :
    req.numeric ctx' index = req.numeric ctx index := by
  have run : req.runPlan ctx' index = req.runPlan ctx index := by
    funext plan
    cases plan with
    | histogram start step =>
      simp only [AggregationRequest.runPlan, AggregationRequest.histogram,
        AggregationRequest.histogramSearch,
        AggregationRequest.boundedQuery, same.schema_eq, same.compileFilter_eq]
    | _ => simp only [AggregationRequest.runPlan, same.stats_eq]
  simp only [AggregationRequest.numeric, AggregationRequest.plan, run, same.stats_eq]

/-- The plain operations work alike. -/
theorem limited_eq (same : ctx.SameData ctx') (index : String) (scope : Option (Filter R))
    (call : Call R) :
    call.limited ctx' index scope = call.limited ctx index scope := by
  have limit : ctx'.timeLimit = ctx.timeLimit := by
    rw [Context.timeLimit, Context.timeLimit, same.aggregation]
  have under : call.under ctx' index scope = call.under ctx index scope := by
    cases call with
    | terms req => simp only [Call.under, AggregationRequest.terms, same.terms_run_eq, same.missingAlias_eq]
    | numeric req => simp only [Call.under, same.numeric_eq]
    | total filter => simp only [Call.under, totalCount, same.compileFilter_eq]
    | rows req =>
      simp only [Call.under, RowRequest.run, RowRequest.search, same.compileFilter_eq,
        Context.compileSort, same.schema_eq]
  rw [Call.limited, Call.limited, under, limit]

end Context.SameData

/-! ### The view -/

/-- In a session on a store, a call that shows the accessible view is the plain operation under the
restriction to accessible documents. -/
theorem Mediation.exists_session_onStore_eq {ctx : Context} {index : String} {st : Store R}
    {accessibility : Accessibility}
    {grants : Except (List String) GrantTable} (serves : ctx.Serves st) (rooted : ctx.Rooted index)
    (free : ∀ a, ctx.missingAlias = some a → a ∉ ctx.grantedPaths grants)
    (shows : ctx.ShowsAccessible index accessibility) (call : Call R) :
    (session ctx grants index accessibility call).onStore st =
      (Outcome.ofExcept (call.checked ctx index)).bind fun _ =>
        (call.limited ctx index
          (some (.isIn ctx.config.aggregation.authField (ctx.accessiblePaths grants)))).onStore st := by
  obtain ⟨scope, resolved, auth, accessible⟩ := Scope.exists_resolve_onStore serves grants
  have names := Scope.namesPaths_of_accessible free auth accessible
  have answered := answer_onStore_eq (m := ⟨ctx, scope⟩) serves rooted names shows call
  rw [session, Dialogue.onStore_bind, resolved, Outcome.value_bind, answered,
    Scope.accessibleMembership_eq names.reserved, auth, accessible]

/-- What is checked beside the arguments always holds when a call has a value. -/
theorem Call.checked_eq_validate {ctx : Context} {index : String} {accessibility : Accessibility}
    (shows : ctx.ShowsAccessible index accessibility) {call : Call R} {x : Option (Filter R)}
    {st : Store R} {a : Answer R} (h : (call.limited ctx index x).onStore st = .value a) :
    call.checked ctx index = call.validate := by
  obtain ⟨q, compiled⟩ := compiles_of_value h
  obtain ⟨s, known⟩ := Context.exists_schema_of_compileFilter compiled
  obtain ⟨plain, unrestricted⟩ := Context.exists_compileFilter_none compiled
  rw [checked]
  rcases shows with served | ⟨served, -⟩ <;>
    simp only [Decision.level_eq_ok known served, bind, Except.bind, unrestricted] <;>
      cases call.validate <;> rfl

/-- The documents of an index that hold one of some paths. -/
def Store.holding (st : Store R) (index field : String) (paths : List String) : List (Json R) :=
  (st.documents index).filter fun doc => (textsAt doc field).any paths.contains

omit [Scalar R] in
/-- Stores that agree on what holds one of some paths agree on what holds one of a part of them. -/
theorem Store.holding_eq_of_subset {st st' : Store R} {index field : String}
    {paths part : List String} (sub : ∀ p ∈ part, p ∈ paths)
    (visible : st.holding index field paths = st'.holding index field paths) :
    st.holding index field part = st'.holding index field part := by
  have narrowed (st : Store R) : st.holding index field part =
      (st.holding index field paths).filter fun doc => (textsAt doc field).any part.contains := by
    rw [holding, holding, List.filter_filter]
    refine List.filter_congr fun doc _ => ?_
    rw [Bool.eq_iff_iff, Bool.and_eq_true]
    refine iff_self_and.mpr fun held => ?_
    obtain ⟨p, hp, inside⟩ := List.any_eq_true.mp held
    exact List.any_eq_true.mpr ⟨p, hp, List.contains_iff_mem.mpr (sub p (List.contains_iff_mem.mp inside))⟩
  rw [narrowed, narrowed, visible]

/-- The accessible view depends on the accessible documents only: two contexts with the same data,
of which each shows the view at its level, give a call the same value on two stores that agree on
the documents with a granted path; at the same level, they end it alike in every case. -/
theorem answer_of_accessible_documents {ctx ctx' : Context} (same : ctx.SameData ctx')
    {index : String} (rooted : ctx.Rooted index) {st st' : Store R} (serves : ctx.Serves st)
    (serves' : ctx'.Serves st') {grants : Except (List String) GrantTable}
    (free : ∀ a, ctx.missingAlias = some a → a ∉ ctx.grantedPaths grants)
    (visible : st.holding index ctx.config.aggregation.authField (ctx.grantedPaths grants) =
      st'.holding index ctx.config.aggregation.authField (ctx.grantedPaths grants))
    {accessibility accessibility' : Accessibility} (shows : ctx.ShowsAccessible index accessibility)
    (shows' : ctx'.ShowsAccessible index accessibility') (call : Call R) :
    (∀ a, (Mediation.session ctx grants index accessibility call).onStore st = .value a ↔
      (Mediation.session ctx' grants index accessibility' call).onStore st' = .value a) ∧
    (ctx.config.effectiveLevel index = ctx'.config.effectiveLevel index →
      (Mediation.session ctx grants index accessibility call).onStore st =
        (Mediation.session ctx' grants index accessibility' call).onStore st') := by
  have accessible := same.accessiblePaths_eq grants
  have free' (a : String) (aliased : ctx'.missingAlias = some a) : a ∉ ctx'.grantedPaths grants :=
    same.grantedPaths_eq grants ▸ free a (same.missingAlias_eq ▸ aliased)
  have rooted' : ctx'.Rooted index := fun s known => by
    rw [same.aggregation]
    exact rooted s (same.schema_eq index ▸ known)
  -- the plain operation under the restriction is one on both stores
  have view : (call.limited ctx index
        (some (.isIn ctx.config.aggregation.authField (ctx.accessiblePaths grants)))).onStore st =
      (call.limited ctx' index
        (some (.isIn ctx'.config.aggregation.authField (ctx'.accessiblePaths grants)))).onStore st' := by
    rw [same.limited_eq, same.aggregation, accessible]
    have names :
        Scope.NamesPaths ctx ⟨ctx.accessiblePaths grants, [], ctx.config.aggregation.authField, none⟩ :=
      Scope.namesPaths_of_accessible free rfl rfl
    have seen := Call.accessible_onStore_eq rooted names (serves.texts index)
      (fun doc stored => same.aggregation ▸ serves'.texts index doc stored)
      (Store.holding_eq_of_subset (fun _ => Context.mem_grantedPaths) visible) call
    rwa [Scope.accessibleMembership_eq names.reserved] at seen
  rw [Mediation.exists_session_onStore_eq serves rooted free shows,
    Mediation.exists_session_onStore_eq serves' rooted' free' shows', ← view]
  constructor
  · intro a
    rw [Outcome.bind_eq_value_iff, Outcome.bind_eq_value_iff]
    refine exists_congr fun _ => and_congr_left fun answered => ?_
    rw [Call.checked_eq_validate shows answered,
      Call.checked_eq_validate shows' (same.limited_eq index _ call ▸ answered)]
  · intro level
    have checked : call.checked ctx' index = call.checked ctx index := by
      simp only [Call.checked, Decision.level, same.schema_eq, ← level, same.compileFilter_eq]
    rw [checked]

/-- A regular index that restricts nothing and a restricted one beside which much is stored: both
show the one subject that is accessible. -/
theorem answer_of_one_accessible_subject :
    (Mediation.session (Sample.context .regular) (Sample.granting "/a") "subject" .accessible
        (.total none : Call Rat)).onStore (Sample.store [Sample.subject (some "/a") 10]) = .value (.total 1) ∧
      (Mediation.session (Sample.context .restricted) (Sample.granting "/a") "subject" .all
        (.total none : Call Rat)).onStore
          (Sample.store [Sample.subject (some "/b") 30, Sample.subject (some "/a") 10, Sample.subject none 50]) =
        .value (.total 1) := by
  have same : (Sample.context .regular).SameData (Sample.context .restricted) :=
    ⟨rfl, rfl, rfl, rfl, rfl⟩
  have serves : (Sample.context .regular).Serves (Sample.store [Sample.subject (some "/a") 10]) :=
    Sample.serves (by decide) (by decide +kernel) (by decide)
  have serves' : (Sample.context .restricted).Serves (Sample.store
      [Sample.subject (some "/b") 30, Sample.subject (some "/a") 10, Sample.subject none 50]) :=
    Sample.serves (by decide) (by decide +kernel) (by decide)
  have view := answer_of_accessible_documents same (Sample.rooted .regular) serves serves'
    (Sample.alias_not_granted .regular) (by rfl)
    (.inr ⟨rfl, rfl⟩) (.inl rfl : (Sample.context .restricted).ShowsAccessible "subject" .all) (.total none)
  have shown :
      (Mediation.session (Sample.context .regular) (Sample.granting "/a") "subject" .accessible
      (.total none : Call Rat)).onStore (Sample.store [Sample.subject (some "/a") 10]) = .value (.total 1) := by
    rfl
  exact ⟨shown, (view.1 _).mp shown⟩

end TieredSearch
