import TieredSearch.Number.Rational
import TieredSearch.Proofs.Tier.Call
import TieredSearch.Proofs.Tier.Decision

/-!
# Documents without a path

Nobody can be granted a document without a resource path, save in one way: the alias of missing
values may be granted as if it were a path, and the restriction to accessible documents then lets
every such document through. Main statement (`unowned_admitted_iff_alias_accessible`): that is the
only way, and without it no search of a call that shows the accessible view selects such a document,
so that an answer is the same as if there were none in the store.
-/

namespace TieredSearch

open Document (valuesAt lacks)

variable {R : Type} [Scalar R]

namespace Scope

variable {ctx : Context} {index : String} {scope : Scope} {s : Schema} {f : Field}

/-- The restriction to accessible documents admits a document without a path exactly when the alias
of missing values is accessible. -/
theorem admits_iff_of_lacks (auth : scope.authField = ctx.config.aggregation.authField)
    (reserved : unownedKey ∉ scope.accessible) (known : ctx.schema index = .ok s)
    (found : s.field? ctx.config.aggregation.authField = some f) {query : Option (Query R)}
    (compiled : ctx.compileFilter index none none true (some scope.accessibleMembership) = .ok query) {doc : Json R}
    (lacking : lacks f doc = true) :
    Query.admits query doc = true ↔ ∃ a, ctx.missingAlias = some a ∧ a ∈ scope.accessible := by
  rw [Context.compileFilter_eq known, accessibleMembership_eq reserved, auth] at compiled
  obtain ⟨u, q, hu, hq, rfl⟩ := Filter.compile_eq_ok_iff.mp compiled
  cases hu
  rw [Filter.compileOptional] at hq
  rw [Filter.compileWithin_isIn found (Filter.kind_of_compileWithin_isIn found hq)] at hq
  cases hq
  rw [Filter.admits_joined, Query.admits_none, Bool.true_and, Query.admits_some,
    Filter.selects_membership_iff, ← Schema.name_of_field? found]
  obtain ⟨-, bare⟩ := Bool.and_eq_true_iff.mp lacking
  have bare : ∀ view ∈ Document.narrowings f.nestedPath doc, valuesAt view f.name = [] := by
    simpa using bare
  constructor
  · rintro (⟨view, hview, v, hv, -⟩ | ⟨⟨a, granted, aliased⟩, -⟩)
    · rw [bare view hview] at hv
      cases hv
    · exact ⟨a, aliased, granted⟩
  · rintro ⟨a, aliased, granted⟩
    exact .inr ⟨⟨a, granted, aliased⟩, bare⟩

/-- A regular index whose listing names nothing out of scope has no matching document without a
path. -/
theorem not_lacks_of_outOfScope {st : Store R} (valid : ctx.config.validate = .ok ())
    (auth : scope.authField = ctx.config.aggregation.authField)
    (reserved : unownedKey ∉ scope.accessible)
    (found : f.name = ctx.config.aggregation.authField) {user : Option (Filter R)}
    {excludeField : Option String} {filterSelf : Bool} {paths : List String}
    (listed : (scope.outOfScope ctx index user excludeField filterSelf).onStore st = .value paths)
    (within : paths.isEmpty = true) {query : Option (Query R)}
    (compiled : ctx.compileFilter index user excludeField filterSelf none = .ok query)
    {doc : Json R} (stored : doc ∈ st.selected index query) : lacks f doc = false := by
  rw [outOfScope, Dialogue.onStore_bind, Outcome.bind_eq_value_iff] at listed
  obtain ⟨buckets, run, same⟩ := listed
  cases same
  obtain ⟨plan, planned⟩ := TermsRequest.exists_plan_of_run_onStore run
  have queried : plan.query = query := by
    obtain ⟨s, g, query', -, -, compiled', rfl⟩ := TermsRequest.plan_eq_ok_iff.mp planned
    cases compiled.symm.trans compiled'
    rfl
  rw [← queried] at stored
  refine Bool.eq_false_iff.mpr fun lacking => ?_
  have bare : valuesAt doc scope.authField = [] := by
    rw [auth, ← found]
    exact List.isEmpty_iff.mp (Bool.and_eq_true_iff.mp lacking).1
  have listed :=
    TermsRequest.missingKey_mem_of_run_onStore planned rfl (Config.pageSize_pos_of_validate valid) run
    stored bare
  have outside : unownedKey ∈ outside scope.accessible buckets :=
    List.mem_filter.mpr ⟨listed, by simpa using reserved⟩
  rw [List.isEmpty_iff.mp within] at outside
  cases outside

end Scope

namespace Mediation

variable {ctx : Context} {index : String} {scope : Scope} {s : Schema} {f : Field} {st : Store R}

/-- One query twice, which admits no stored document without a path. -/
def AdmitsOwned (st : Store R) (index : String) (f : Field) (q q' : Option (Query R)) : Prop :=
  (∀ doc ∈ st.documents index, Query.admits q doc = true → lacks f doc = false) ∧ q = q'

/-- Unless the alias is accessible, a call that shows the accessible view asks only for documents
that have a path. -/
theorem act_alike_of_free (valid : ctx.config.validate = .ok ())
    (auth : scope.authField = ctx.config.aggregation.authField)
    (reserved : unownedKey ∉ scope.accessible)
    (free : ∀ a, ctx.missingAlias = some a → a ∉ scope.accessible)
    (known : ctx.schema index = .ok s)
    (found : s.field? ctx.config.aggregation.authField = some f) {accessibility : Accessibility}
    (shows : ctx.ShowsAccessible index accessibility) {call : Call R} {decision : Decision R}
    (made : (Decision.make ctx scope index (call.tierRequest accessibility)).onStore st = .value decision) :
    ((Mediation.mk ctx scope).act index decision call).Alike (Search.Rel index (AdmitsOwned st index f))
      ((Mediation.mk ctx scope).act index decision call) := by
  -- it is enough that what the filters compile to admits no stored document without a path
  have alike (x : Option (Filter R)) (owned : ∀ q, ctx.compileFilter index call.filter call.excludeField
      call.filterSelf (Filter.both call.restriction x) = .ok q →
        ∀ doc ∈ st.documents index, Query.admits q doc = true → lacks f doc = false) :
      (call.limited ctx index x).Alike (Search.Rel index (AdmitsOwned st index f)) (call.limited ctx index x) := by
    refine Call.limited_alike ?_ ((Agree.refl (fun _ => rfl) _).left owned)
    rintro q _ ⟨owned, rfl⟩ clauses
    refine ⟨fun doc stored admitted => owned doc stored ?_, rfl⟩
    rw [Query.admits_beside, Bool.and_eq_true] at admitted
    exact admitted.1
  have restricted : ((Mediation.mk ctx scope).act index (.accessibleOnly scope) call).Alike
      (Search.Rel index (AdmitsOwned st index f)) ((Mediation.mk ctx scope).act index (.accessibleOnly scope) call) := by
    rw [act_of_unshadowed _ index rfl]
    refine alike (some scope.accessibleMembership) fun q compiled doc _ admitted => ?_
    rw [Context.compileFilter_eq known, Scope.accessibleMembership_eq reserved, auth] at compiled
    exact Filter.not_lacks_of_compile_both found free compiled admitted
  rcases shows with served | ⟨served, rfl⟩
  · rw [Decision.make_of_restricted (Decision.level_eq_ok known served)] at made
    cases made
    exact restricted
  · rw [Decision.make_of_regular (Decision.level_eq_ok known served), Dialogue.onStore_bind,
      Outcome.bind_eq_value_iff] at made
    obtain ⟨paths, listed, made⟩ := made
    rw [Decision.regular_of_accessible rfl] at made
    cases made
    split
    next within =>
      rw [act_of_unshadowed _ index rfl]
      refine alike none fun q compiled doc stored admitted => ?_
      obtain ⟨plain, unrestricted⟩ := Context.exists_compileFilter_none compiled
      exact Scope.not_lacks_of_outOfScope valid auth reserved (Schema.name_of_field? found) listed within
        unrestricted (List.mem_filter.mpr ⟨stored, Context.admits_of_compileFilter unrestricted compiled admitted⟩)
    next => exact restricted

end Mediation

/-- Whether the restriction to accessible documents admits a document without a path is
whether the alias of missing values is accessible. If it is not, a call that shows the
accessible view selects no such document in any of its searches, and has the answer it would
have without them in the store. -/
theorem unowned_admitted_iff_alias_accessible {ctx : Context} (valid : ctx.config.validate = .ok ())
    {st₀ : Store R} {grants : Except (List String) GrantTable} {scope : Scope}
    (resolved : (Scope.resolve ctx grants : Dialogue R Scope).onStore st₀ = .value scope)
    {index : String} {s : Schema} (known : ctx.schema index = .ok s) {f : Field}
    (found : s.field? ctx.config.aggregation.authField = some f) :
    (∀ query, ctx.compileFilter index none none true (some (scope.accessibleMembership : Filter R)) = .ok query →
      ∀ doc, lacks f doc = true →
        (Query.admits query doc = true ↔ ∃ a, ctx.missingAlias = some a ∧ a ∈ scope.accessible)) ∧
    ((∀ a, ctx.missingAlias = some a → a ∉ scope.accessible) →
      ∀ accessibility, ctx.ShowsAccessible index accessibility →
        ∀ (st : Store R) (call : Call R) decision,
          (Decision.make ctx scope index (call.tierRequest accessibility)).onStore st =
            .value decision →
          (∀ search ∈ ((Backend.store st false).run
              ((Mediation.mk ctx scope).act index decision call)).searches,
            ∀ doc ∈ st.selected search.index search.query, lacks f doc = false) ∧
          ∀ st' : Store R,
            st'.documents index = (st.documents index).filter (fun doc => !lacks f doc) →
            ((Mediation.mk ctx scope).act index decision call).onStore st' =
              ((Mediation.mk ctx scope).act index decision call).onStore st) := by
  obtain ⟨auth, reserved⟩ := Scope.resolve_granted resolved
  constructor
  · intro query compiled doc lacking
    exact Scope.admits_iff_of_lacks auth reserved known found compiled lacking
  · intro free accessibility shows st call decision made
    have alike := Mediation.act_alike_of_free valid auth reserved free known found shows made
    constructor
    · have asks : ((Mediation.mk ctx scope).act index decision call).AsksOnly fun search =>
          ∀ doc ∈ st.selected search.index search.query, lacks f doc = false := by
        refine alike.mono fun search _ ⟨here, _, _, owned, _⟩ doc hdoc => ?_
        obtain ⟨stored, admitted⟩ := List.mem_filter.mp hdoc
        exact owned doc (here ▸ stored) admitted
      exact asks.searches _
    · intro st' without
      refine alike.onStore_eq ?_
      rintro search search' ⟨here, there, purpose, owned, same⟩
      refine Store.answer_congr purpose ?_
      rw [here, there, ← same, Store.selected, Store.selected, without, List.filter_filter]
      refine List.filter_congr fun doc stored => ?_
      rw [Bool.eq_iff_iff, Bool.and_eq_true]
      exact and_iff_left_of_imp fun admitted => by rw [owned doc stored admitted]; rfl

/-- The alias was not granted: of two subjects, the one without a path is not counted. -/
theorem subject_without_path_not_counted :
    ((Mediation.mk (Sample.context .regular) (Sample.scope ["/a"] [unownedKey])).act "subject"
        (.accessibleOnly (Sample.scope ["/a"] [unownedKey])) (.total none : Call Rat)).onStore
      (Sample.store [Sample.subject (some "/a") 10]) =
    ((Mediation.mk (Sample.context .regular) (Sample.scope ["/a"] [unownedKey])).act "subject"
        (.accessibleOnly (Sample.scope ["/a"] [unownedKey])) (.total none : Call Rat)).onStore
      (Sample.store [Sample.subject (some "/a") 10, Sample.subject none 20]) := by
  have resolved :
      (Scope.resolve (Sample.context .regular) (Sample.granting "/a") : Dialogue Rat Scope).onStore
        (Sample.store [Sample.subject (some "/a") 10, Sample.subject none 20]) =
      .value (Sample.scope ["/a"] [unownedKey]) := by
    rfl
  have free : ∀ a, (Sample.context .regular).missingAlias = some a → a ∉ ["/a"] := by
    rintro _ ⟨⟩
    decide
  refine ((unowned_admitted_iff_alias_accessible
    (f := ⟨"auth_resource_path", .text, [], false, false⟩) rfl resolved rfl rfl).2 free .accessible
      (.inr ⟨rfl, rfl⟩) (Sample.store [Sample.subject (some "/a") 10, Sample.subject none 20])
      (.total none) _ ?_).2 _ ?_
  · rfl
  · rfl

/-- The alias was granted: the restriction to accessible documents admits a subject without a path,
and a restricted index counts it. -/
theorem subject_without_path_counted_as_alias :
    (Sample.context .restricted).config.validate = .ok () ∧
    (Scope.resolve (Sample.context .restricted) (Sample.granting "no data") :
        Dialogue Rat Scope).onStore (Sample.store [Sample.subject none 10]) =
      .value (Sample.scope ["no data"] [unownedKey]) ∧
    lacks ⟨"auth_resource_path", .text, [], false, false⟩ (Sample.subject none 10) = true ∧
    (∃ query, (Sample.context .restricted).compileFilter "subject" none none true
        (some (Sample.scope ["no data"] [unownedKey]).accessibleMembership) = .ok query ∧
      Query.admits query (Sample.subject none 10) = true) ∧
    (Mediation.session (Sample.context .restricted) (Sample.granting "no data") "subject"
        .accessible (.total none : Call Rat)).onStore (Sample.store [Sample.subject none 10]) =
      .value (.total 1) := by
  refine ⟨rfl, by rfl, by rfl, ⟨_, rfl, by rfl⟩, by rfl⟩

end TieredSearch
