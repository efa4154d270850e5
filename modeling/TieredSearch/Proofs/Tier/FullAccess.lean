import TieredSearch.Number.Rational
import TieredSearch.Proofs.Filter.Beside
import TieredSearch.Proofs.Scope.Membership
import TieredSearch.Proofs.Tier.BareShadow
import TieredSearch.Proofs.Tier.TimeLimit

/-!
# Full access

A caller who may read all that a request touches is answered as if nothing were mediated. Main
statement (`answer_of_owned_documents`): where the scope owns every document that passes the caller's
filter, asking for all of a regular index has the outcome of the plain operation. The request still
takes the way of one whose counts are suppressed: the exclusion of sensitive records lets every owned
document through, and the shadow, whatever paths of other documents and other indices it is made of,
selects none.
-/

namespace TieredSearch

open Document (textsAt holdsTexts)

variable {R : Type} [Scalar R] {ctx : Context} {index : String} {st : Store R}

/-! ### The restrictions of a decision -/

namespace Decision

variable {s : Schema} {scope : Scope} (known : ctx.schema index = .ok s) (rooted : ctx.Rooted index)
  (marks : ctx.MarksTexts index) (auth : scope.authField = ctx.config.aggregation.authField)

include known rooted auth

omit marks in
theorem atRoot_membership (paths : List String) :
    Filter.AtRoot ⟨s, ctx.missingAlias, ctx.config.aggregation.analyzedSuffix⟩
      (scope.membership paths : Filter R) (scope.membershipClause ctx.missingAlias paths) := by
  obtain ⟨f, found, text, root⟩ := rooted s known
  rw [← auth] at found
  exact Scope.atRoot_membership (t := ⟨s, _, _⟩) found text root paths

include marks

/-- The exclusion of sensitive records selects what the restriction to accessible documents does. -/
theorem exists_exclusion :
    (sensitiveExclusion ctx scope : Option (Filter R)) = none ∨
      ∃ x clause, (sensitiveExclusion ctx scope : Option (Filter R)) = some x ∧
        Filter.AtRoot ⟨s, ctx.missingAlias, ctx.config.aggregation.analyzedSuffix⟩ x clause ∧
        ∀ doc, (scope.membershipClause ctx.missingAlias scope.accessible : Query R).selects doc = true →
          clause.selects doc = true := by
  rw [sensitiveExclusion]
  cases sensitive : ctx.config.tier.sensitiveField with
  | none => exact .inl rfl
  | some name =>
    obtain ⟨f, found, text⟩ := marks name s sensitive known
    obtain ⟨unmarked, compiled⟩ := Filter.Stands.differs (R := R)
      (t := ⟨s, ctx.missingAlias, ctx.config.aggregation.analyzedSuffix⟩) found text "true" []
    refine .inr ⟨_, _, rfl, (atRoot_membership known rooted auth scope.accessible).anyOf compiled, ?_⟩
    intro doc selected
    rw [Query.selects_anyOf, List.any_cons, selected, Bool.true_or, Bool.or_true]

/-- The restriction of the shadow selects only documents out of reach. -/
theorem exists_shadow :
    ∃ clause, Filter.AtRoot ⟨s, ctx.missingAlias, ctx.config.aggregation.analyzedSuffix⟩
        (Filter.narrowedBy (sensitiveExclusion ctx scope) scope.unaccessibleMembership : Filter R) clause ∧
      ∀ doc, clause.selects doc = true →
        (scope.membershipClause ctx.missingAlias scope.unaccessible : Query R).selects doc = true := by
  have beyond := atRoot_membership (R := R) known rooted auth scope.unaccessible
  rcases exists_exclusion (R := R) known rooted marks auth with without | ⟨x, clause, exclusion, atRoot, -⟩
  · rw [without]
    exact ⟨_, beyond, fun _ selected => selected⟩
  · rw [exclusion]
    refine ⟨_, atRoot.allOf beyond.compiled, fun doc selected => ?_⟩
    rw [Query.selects_allOf, List.all_cons, List.all_cons, Bool.and_eq_true, Bool.and_eq_true] at selected
    exact selected.2.1

end Decision

/-! ### Owned documents -/

namespace Scope

variable {grants : Except (List String) GrantTable} {scope : Scope} {doc : Json R} (serves : ctx.Serves st)
  (resolved : (resolve ctx grants : Dialogue R Scope).onStore st = .value scope)
  (stored : doc ∈ st.documents index) (owned : scope.owns doc = true)

include serves resolved stored owned

/-- The restriction to accessible documents selects what the scope owns. -/
theorem selects_accessible_of_owns
    (free : ∀ a, ctx.missingAlias = some a → a ∉ ctx.grantedPaths grants) :
    (scope.membershipClause ctx.missingAlias scope.accessible : Query R).selects doc = true := by
  have names := namesPaths_of_resolve serves free resolved
  have reached : scope.reaches doc = true := (Bool.and_eq_true _ _ ▸ owned).1
  obtain ⟨p, hp, granted⟩ := reaches_iff.mp reached
  rw [names.authField] at hp
  have ordinary : ctx.IsOrdinary p := by
    constructor
    · rintro rfl
      exact names.reserved granted
    · intro aliased
      exact names.free p aliased granted
  exact (selects_accessible_iff serves resolved stored).mpr (.inl ⟨p, hp, ordinary, granted⟩)

/-- The restriction to documents out of reach selects nothing that the scope owns. -/
theorem not_selects_unaccessible_of_owns (whole : scope.isDegraded = false)
    (configured : index ∈ ctx.config.indexNames) :
    (scope.membershipClause ctx.missingAlias scope.unaccessible : Query R).selects doc = false := by
  have auth := (resolve_granted resolved).1
  have texts : holdsTexts doc scope.authField = true := auth ▸ serves.texts index doc stored
  obtain ⟨some, within⟩ := (owns_iff texts).mp owned
  rw [auth] at some within
  refine Bool.eq_false_iff.mpr fun selected => ?_
  rcases (selects_unaccessible_iff serves resolved whole configured stored).mp selected with
    ⟨p, hp, -, denied⟩ | bare
  · exact denied (within p hp)
  · rw [Document.valuesAt_eq_map_textsAt (serves.texts index doc stored), bare] at some
    exact some rfl

end Scope

/-! ### The whole call -/

/-- Where all that a call sees is owned, its two runs come to the plain operation. -/
theorem Mediation.act_onStore_of_owned {s : Schema} {grants : Except (List String) GrantTable}
    {scope : Scope} (serves : ctx.Serves st) (rooted : ctx.Rooted index) (marks : ctx.MarksTexts index)
    (resolved : (Scope.resolve ctx grants : Dialogue R Scope).onStore st = .value scope)
    (whole : scope.isDegraded = false)
    (free : ∀ a, ctx.missingAlias = some a → a ∉ ctx.grantedPaths grants)
    (known : ctx.schema index = .ok s) {call : Call R}
    (owned : ∀ query, ctx.compileFilter index call.filter call.excludeField call.filterSelf
      (Filter.both call.restriction none) = .ok query →
        ∀ doc ∈ st.selected index query, scope.owns doc = true) :
    ((Mediation.mk ctx scope).act index (.allWithRedaction ctx scope) call).onStore st =
      (call.under ctx index none).onStore st := by
  have auth := (Scope.resolve_granted resolved).1
  have configured := Context.mem_indexNames_of_schema known
  have first : call.SameView ctx index st st (Decision.sensitiveExclusion ctx scope) none := by
    rcases Decision.exists_exclusion (R := R) known rooted marks auth with
      without | ⟨x, clause, exclusion, atRoot, within⟩
    · rw [without]
      exact Call.SameView.refl call none
    · rw [exclusion]
      refine Call.sameView_none_of_selects known atRoot fun query compiled doc stored => within doc ?_
      exact Scope.selects_accessible_of_owns serves resolved (List.mem_of_mem_filter stored)
        (owned query compiled doc stored) free
  obtain ⟨clause, atRoot, beyond⟩ := Decision.exists_shadow (R := R) known rooted marks auth
  have like : call.CompilesLike ctx index (Decision.sensitiveExclusion ctx scope)
      (some (Filter.narrowedBy (Decision.sensitiveExclusion ctx scope) scope.unaccessibleMembership)) := by
    have shadowed := Call.compileFilter_narrowed known atRoot call
    exact first.compilesLike.trans (shadowed.mono fun _ _ _ => trivial)
  have bare : ctx.Excludes st index call.filter call.excludeField call.filterSelf
      (Filter.both call.restriction
        (some (Filter.narrowedBy (Decision.sensitiveExclusion ctx scope) scope.unaccessibleMembership))) := by
    refine Call.excludes_of_selects known atRoot fun query compiled doc stored => ?_
    refine Bool.eq_false_iff.mpr fun selected => ?_
    have apart : (scope.membershipClause ctx.missingAlias scope.unaccessible : Query R).selects doc = false :=
      Scope.not_selects_unaccessible_of_owns serves resolved (List.mem_of_mem_filter stored)
        (owned query compiled doc stored) whole configured
    rw [beyond doc selected] at apart
    cases apart
  have patient : 0 < ctx.patience := Nat.zero_lt_of_lt serves.patient
  rw [act_onStore_of_bare rfl like bare patient]
  exact (Call.limited_onStore_eq first).trans (call.limited_onStore none)

/-- A caller who may read all that a request touches, and who asks for all of a regular index, gets the
answer of the plain operation, and no other; and where the request's own filter compiles, the outcome is
that of the plain operation also when it is an error. -/
theorem answer_of_owned_documents (serves : ctx.Serves st) (rooted : ctx.Rooted index)
    (marks : ctx.MarksTexts index) (served : ctx.config.effectiveLevel index = some .regular)
    {grants : Except (List String) GrantTable} {scope : Scope}
    (resolved : (Scope.resolve ctx grants : Dialogue R Scope).onStore st = .value scope)
    (whole : scope.isDegraded = false)
    (free : ∀ a, ctx.missingAlias = some a → a ∉ ctx.grantedPaths grants) (call : Call R)
    (owned : ∀ query, ctx.compileFilter index call.filter call.excludeField call.filterSelf none = .ok query →
      ∀ doc ∈ st.selected index query, scope.owns doc = true) :
    (∀ answer, ((Mediation.mk ctx scope).answer index .all call).onStore st = .value answer ↔
      (call.under ctx index none).onStore st = .value answer) ∧
    ∀ query, ctx.compileFilter index call.filter call.excludeField call.filterSelf none = .ok query →
      ((Mediation.mk ctx scope).answer index .all call).onStore st =
        (call.under ctx index none).onStore st := by
  have equal : ∀ query,
      ctx.compileFilter index call.filter call.excludeField call.filterSelf none = .ok query →
        ((Mediation.mk ctx scope).answer index .all call).onStore st =
          (call.under ctx index none).onStore st := by
    intro query compiled
    obtain ⟨s, known⟩ := Context.exists_schema_of_compileFilter compiled
    have names := Scope.namesPaths_of_resolve serves free resolved
    obtain ⟨paths, made, within⟩ :=
      Decision.exists_make_onStore serves rooted names served (call.tierRequest .all) compiled
    have decided : Decision.regular ctx scope (call.tierRequest .all) paths =
        .ok (.allWithRedaction ctx scope) := by
      rw [Decision.regular, if_pos (within.mpr (owned query compiled))]
      rfl
    have plain := Mediation.act_onStore_of_owned serves rooted marks resolved whole free known
      fun query' compiled' doc stored => by
        refine owned query compiled doc (List.mem_filter.mpr ⟨List.mem_of_mem_filter stored, ?_⟩)
        exact Context.admits_of_compileFilter compiled compiled' (List.mem_filter.mp stored).2
    rw [Mediation.answer_onStore, made, decided, Outcome.ofExcept_ok, Outcome.value_bind, plain]
    cases valid : call.validate with
    | error e => exact (call.under_onStore_of_invalid valid none).symm
    | ok _ => rfl
  refine ⟨fun answer => ?_, equal⟩
  cases compiled : ctx.compileFilter index call.filter call.excludeField call.filterSelf none with
  | ok query => rw [equal query compiled]
  | error e =>
    -- a request whose filter does not compile has no answer either way
    refine iff_of_false (fun answered => ?_) fun answered => ?_
    · have names := Scope.namesPaths_of_resolve serves free resolved
      rw [Mediation.answer_onStore, Outcome.bind_eq_value_iff] at answered
      obtain ⟨_, -, answered⟩ := answered
      rw [Decision.make_onStore_of_error rooted names served (call.tierRequest .all) compiled] at answered
      cases answered
    · rw [← call.limited_onStore] at answered
      obtain ⟨query, compiled'⟩ := Call.compiles_of_value answered
      obtain ⟨plain, compiled''⟩ := Context.exists_compileFilter_none compiled'
      rw [compiled] at compiled''
      cases compiled''

/-- The ages of the subjects of one path. -/
def Sample.agesOf (path : String) : Call Rat :=
  .numeric ⟨"age", some (.equals "auth_resource_path" path), true, none, none, none, none, none⟩

/-- Of two subjects the caller may read the younger one. Asked for the ages of the subjects with its path,
the site answers as without mediation. -/
theorem ages_of_owned_subject :
    ((Mediation.mk (Sample.context .regular) (Sample.scope ["/a"] ["/b"])).answer "subject" .all
        (Sample.agesOf "/a")).onStore Sample.mixed =
      .value (.numeric [⟨some 10, some 10, some 10, some 10, some 10, some 10, 1⟩]) := by
  have serves : (Sample.context .regular).Serves Sample.mixed :=
    Sample.serves (by decide) (by decide) (by decide)
  have resolved : (Scope.resolve (Sample.context .regular) (Sample.granting "/a") :
      Dialogue Rat Scope).onStore Sample.mixed = .value (Sample.scope ["/a"] ["/b"]) := by
    rfl
  have marks : (Sample.context .regular).MarksTexts "subject" := by
    rintro name s ⟨⟩
  have compiled : (Sample.context .regular).compileFilter "subject" (Sample.agesOf "/a").filter
      (Sample.agesOf "/a").excludeField (Sample.agesOf "/a").filterSelf none =
        .ok (some (.term "auth_resource_path" (.str "/a"))) := by
    rfl
  have owned : ∀ query, (Sample.context .regular).compileFilter "subject" (Sample.agesOf "/a").filter
      (Sample.agesOf "/a").excludeField (Sample.agesOf "/a").filterSelf none = .ok query →
        ∀ doc ∈ Sample.mixed.selected "subject" query, (Sample.scope ["/a"] ["/b"]).owns doc = true := by
    rintro query compiled'
    cases compiled.symm.trans compiled'
    have selected : Sample.mixed.selected "subject" (some (.term "auth_resource_path" (.str "/a"))) =
        [Sample.subject (some "/a") 10] := by
      rfl
    rw [selected]
    simp only [List.mem_singleton, forall_eq]
    decide
  have plain := answer_of_owned_documents serves (Sample.rooted .regular) marks rfl resolved rfl
    (Sample.alias_not_granted .regular) (Sample.agesOf "/a") owned
  rw [plain.2 _ compiled]
  with_unfolding_all rfl

end TieredSearch
