import TieredSearch.Proofs.Scope.Membership
import TieredSearch.Proofs.Tier.AccessibleView
import TieredSearch.Proofs.Tier.SameView

/-!
# Sensitive records

A record marked as sensitive is concealed from a caller who may read none of its paths. Main
statement (`answer_without_concealed`): no aggregation on a regular index tells whether concealed
records are stored. Removing them changes the paths that are listed, and with them the paths out of
reach, but not what either run of a call selects: the exclusion of sensitive records drops the
concealed ones, and whether another record is out of reach depends on it alone
(`Scope.selects_unaccessible_iff`). For a scope that could not be resolved the decision may change
from one without a shadow to one with a shadow, but only where nothing is selected at all.
-/

namespace TieredSearch

open Document (valuesAt textsAt holdsTexts narrowings)

variable {R : Type} [Scalar R]

/-! ### Concealed records -/

/-- Whether some occurrence of a field in a document, inside nested objects or not, has the value
"true". -/
def Document.isMarked (f : Field) (doc : Json R) : Bool :=
  (narrowings f.nestedPath doc).any fun view => (valuesAt view f.name).any (·.equalsOperand (.str "true"))

/-- Whether a record is concealed from a caller: it is marked as sensitive, and the caller may read none
of its paths. -/
def Context.conceals (ctx : Context) (grants : Except (List String) GrantTable) (f : Field)
    (doc : Json R) : Bool :=
  Document.isMarked f doc &&
    !(textsAt doc ctx.config.aggregation.authField).any (ctx.accessiblePaths grants).contains

omit [Scalar R] in
/-- A store without some of the documents of each index. -/
def Store.without (st : Store R) (hidden : String → Json R → Bool) : Store R where
  indices := st.indices.map fun entry => (entry.1, entry.2.filter fun doc => !hidden entry.1 doc)

namespace Store

variable {hidden : String → Json R → Bool}

omit [Scalar R] in
theorem documents_without (st : Store R) (index : String) :
    (st.without hidden).documents index = (st.documents index).filter fun doc => !hidden index doc := by
  have moved : (st.without hidden).indices.find? (·.1 = index) =
      (st.indices.find? (·.1 = index)).map fun entry =>
        (entry.1, entry.2.filter fun doc => !hidden entry.1 doc) := List.find?_map
  rw [documents, documents, moved]
  cases found : st.indices.find? (·.1 = index) with
  | none => rfl
  | some entry =>
    have named : entry.1 = index := by simpa using List.find?_some found
    subst named
    rfl

omit [Scalar R] in
theorem size_without_le (st : Store R) : (st.without hidden).size ≤ st.size := by
  obtain ⟨entries⟩ := st
  induction entries with
  | nil => exact Nat.le_refl _
  | cons entry rest ih =>
    have fewer := Json.sizeItems_filter_le (fun doc => !hidden entry.1 doc) entry.2
    exact Nat.add_le_add fewer ih

end Store

omit [Scalar R] in
/-- A part of a store that serves a context serves it. -/
theorem Context.Serves.without {ctx : Context} {st : Store R} (serves : ctx.Serves st)
    (hidden : String → Json R → Bool) : ctx.Serves (st.without hidden) where
  valid := serves.valid
  texts index doc stored := by
    rw [Store.documents_without] at stored
    exact serves.texts index doc (List.mem_of_mem_filter stored)
  patient := lt_of_le_of_lt st.size_without_le serves.patient
  small := lt_of_le_of_lt st.size_without_le serves.small

/-! ### The exclusion of sensitive records -/

namespace Scope

variable {t : Filter.Target} {scope : Scope} {f g : Field} {name : String}

/-- The clause of the exclusion of sensitive records. -/
def exclusionClause (missingAlias : Option String) (scope : Scope) (f : Field) : Query R :=
  .anyOf [scope.membershipClause missingAlias scope.accessible,
    .noneOf (.nestedIn f.nestedPath (.term f.name (.str "true")))]

/-- The exclusion of sensitive records is a restriction outside nested objects, also where the mark is
inside them. -/
theorem atRoot_exclusion (found : t.schema.field? scope.authField = some g) (text : g.kind = .text)
    (root : g.nestedPath = []) (marked : t.schema.field? name = some f) (markText : f.kind = .text)
    (free : t.missingAlias ≠ some "true") :
    Filter.AtRoot t (.anyOf [scope.accessibleMembership, .differs name "true"] : Filter R)
      (scope.exclusionClause t.missingAlias f) := by
  have differs := Filter.compileWithin_differs (R := R) marked markText free
  rw [exclusionClause, Schema.name_of_field? marked]
  exact (atRoot_membership found text root scope.accessible).anyOf differs

/-- The exclusion selects what the restriction to accessible documents selects, and what is not
marked. -/
theorem selects_exclusionClause (missingAlias : Option String) (doc : Json R) :
    (scope.exclusionClause missingAlias f).selects doc =
      ((scope.membershipClause missingAlias scope.accessible).selects doc || !Document.isMarked f doc) := by
  rw [exclusionClause, Query.selects_anyOf, Document.isMarked]
  simp only [List.isEmpty_cons, Bool.false_or, List.any_cons, List.any_nil, Bool.or_false,
    Query.selects_nestedIn, Query.selects]

/-- The exclusion drops what is concealed. -/
theorem not_selects_exclusionClause_of_conceals {ctx : Context}
    {grants : Except (List String) GrantTable} (names : scope.NamesPaths ctx)
    (accessible : scope.accessible = ctx.accessiblePaths grants) {doc : Json R}
    (texts : holdsTexts doc scope.authField = true) (concealed : ctx.conceals grants f doc = true) :
    (scope.exclusionClause ctx.missingAlias f : Query R).selects doc = false := by
  rw [Context.conceals, Bool.and_eq_true, ← accessible, ← names.authField] at concealed
  obtain ⟨marked, apart⟩ := concealed
  have unreached : ∀ p ∈ textsAt doc scope.authField, p ∉ scope.accessible := by simpa using apart
  rw [selects_exclusionClause, marked, Bool.not_true, Bool.or_false]
  refine Bool.eq_false_iff.mpr fun selected => ?_
  rcases (selects_membershipClause_iff texts scope.accessible).mp selected with
    ⟨p, hp, granted, -⟩ | ⟨-, reserved | ⟨a, granted, aliased⟩⟩
  · exact unreached p hp granted
  · exact names.reserved reserved
  · exact names.free a aliased granted

end Scope

/-! ### Decisions with a shadow -/

/-- The records of an index are marked as sensitive in a text field, at any depth. The alias of missing
values is not the mark. -/
structure Context.Marks (ctx : Context) (index : String) (s : Schema) (f : Field) : Prop where
  /-- The schema of the index has been read. -/
  known : ctx.schema index = .ok s
  /-- The field is the configured one. -/
  sensitive : ctx.config.tier.sensitiveField = some f.name
  /-- It is a field of the schema. -/
  found : s.field? f.name = some f
  /-- It holds texts. -/
  text : f.kind = .text
  /-- The mark is looked up as a text. -/
  free : ctx.missingAlias ≠ some "true"

section Decisions

variable {ctx : Context} {index : String} {s : Schema} {f : Field} {st st' : Store R}
  {scope scope' : Scope} {call : Call R}

/-- The clause of the shadow of a decision that excludes sensitive records. -/
def Scope.shadowClause (missingAlias : Option String) (scope : Scope) (f : Field) : Query R :=
  .allOf [scope.exclusionClause missingAlias f, scope.membershipClause missingAlias scope.unaccessible]

/-- The restriction of the shadow of a decision. -/
def Decision.shadowRestriction (ctx : Context) (scope : Scope) : Filter R :=
  Filter.narrowedBy (Decision.sensitiveExclusion ctx scope) scope.unaccessibleMembership

variable (marks : ctx.Marks index s f) (rooted : ctx.Rooted index)
  (auth : scope.authField = ctx.config.aggregation.authField)
  (auth' : scope'.authField = ctx.config.aggregation.authField)

include marks in
omit [Scalar R] in
theorem Decision.sensitiveExclusion_eq (scope : Scope) :
    Decision.sensitiveExclusion (R := R) ctx scope =
      some (.anyOf [scope.accessibleMembership, .differs f.name "true"]) := by
  rw [sensitiveExclusion, marks.sensitive, Option.map_some]

include marks rooted auth in
theorem Context.Marks.atRoot_exclusion :
    Filter.AtRoot ⟨s, ctx.missingAlias, ctx.config.aggregation.analyzedSuffix⟩
      (.anyOf [scope.accessibleMembership, .differs f.name "true"] : Filter R)
      (scope.exclusionClause ctx.missingAlias f) := by
  obtain ⟨g, found, text, root⟩ := rooted s marks.known
  rw [← auth] at found
  exact Scope.atRoot_exclusion (t := ⟨s, _, _⟩) found text root marks.found marks.text marks.free

include marks rooted auth in
theorem Context.Marks.atRoot_shadow :
    Filter.AtRoot ⟨s, ctx.missingAlias, ctx.config.aggregation.analyzedSuffix⟩
      (Decision.shadowRestriction ctx scope : Filter R) (scope.shadowClause ctx.missingAlias f) := by
  obtain ⟨g, found, text, root⟩ := rooted s marks.known
  rw [← auth] at found
  rw [Decision.shadowRestriction, Decision.sensitiveExclusion_eq marks]
  exact (marks.atRoot_exclusion rooted auth).allOf
    (Scope.atRoot_membership (t := ⟨s, _, _⟩) found text root scope.unaccessible).compiled

include marks rooted auth auth' in
/-- What the restrictions of a decision with a shadow select decides how a call ends that suppresses
counts. -/
theorem Mediation.act_onStore_congr_of_marks {decide : Scope → Decision R}
    (kind : decide = .allWithRedaction ctx ∨ decide = .unaccessibleOnly ctx) (counts : call.isRaw = false)
    (exclusion : (st.documents index).filter (scope.exclusionClause ctx.missingAlias f).selects =
      (st'.documents index).filter (scope'.exclusionClause ctx.missingAlias f).selects)
    (shadow : (st.documents index).filter (scope.shadowClause ctx.missingAlias f).selects =
      (st'.documents index).filter (scope'.shadowClause ctx.missingAlias f).selects) :
    ((Mediation.mk ctx scope).act index (decide scope) call).onStore st =
      ((Mediation.mk ctx scope').act index (decide scope') call).onStore st' := by
  have whole : call.SameView ctx index st st' (Decision.sensitiveExclusion ctx scope)
      (Decision.sensitiveExclusion ctx scope') := by
    rw [Decision.sensitiveExclusion_eq marks, Decision.sensitiveExclusion_eq marks]
    exact Call.sameView_of_atRoot marks.known (marks.atRoot_exclusion rooted auth)
      (marks.atRoot_exclusion rooted auth') exclusion
  have beyond : call.SameView ctx index st st' (some (Decision.shadowRestriction ctx scope))
      (some (Decision.shadowRestriction ctx scope')) :=
    Call.sameView_of_atRoot marks.known (marks.atRoot_shadow rooted auth)
      (marks.atRoot_shadow rooted auth') shadow
  rcases kind with rfl | rfl
  · exact act_onStore_congr rfl rfl counts whole beyond
  · exact act_onStore_congr rfl rfl counts beyond beyond

include marks rooted auth in
/-- Where the caller's filter passes nothing, a call ends as without a decision. -/
theorem Mediation.act_onStore_of_marks {decide : Scope → Decision R}
    (kind : decide = .allWithRedaction ctx ∨ decide = .unaccessibleOnly ctx) (counts : call.isRaw = false)
    (nothing : ctx.Excludes st index call.filter call.excludeField call.filterSelf
      (Filter.both call.restriction none)) :
    ((Mediation.mk ctx scope).act index (decide scope) call).onStore st =
      (call.limited ctx index none).onStore st := by
  have whole : call.SameView ctx index st st (Decision.sensitiveExclusion ctx scope) none := by
    rw [Decision.sensitiveExclusion_eq marks]
    exact Call.sameView_none_of_excludes marks.known (marks.atRoot_exclusion rooted auth) nothing
  have beyond : call.SameView ctx index st st (some (Decision.shadowRestriction ctx scope)) none :=
    Call.sameView_none_of_excludes marks.known (marks.atRoot_shadow rooted auth) nothing
  rcases kind with rfl | rfl
  · exact act_onStore_of_nothing rfl counts whole beyond nothing
  · exact act_onStore_of_nothing rfl counts beyond beyond nothing

end Decisions

/-! ### Scopes that could not be resolved -/

/-- For a scope that could not be resolved, a regular index shows its accessible part, whatever is asked
for. -/
theorem Mediation.answer_onStore_of_isDegraded {ctx : Context} {index : String} {s : Schema} {f : Field}
    {st : Store R} (serves : ctx.Serves st) (rooted : ctx.Rooted index) (marks : ctx.Marks index s f)
    (served : ctx.config.effectiveLevel index = some .regular) {scope : Scope} (names : scope.NamesPaths ctx)
    (degraded : scope.isDegraded = true) (nothing : scope.accessible = []) {call : Call R}
    (counts : call.isRaw = false) (accessibility : Accessibility) :
    ((Mediation.mk ctx scope).answer index accessibility call).onStore st =
      ((Mediation.mk ctx scope).answer index .accessible call).onStore st := by
  by_cases asked : accessibility = .accessible
  · rw [asked]
  · obtain ⟨decide, kind, suppressing⟩ := Decision.exists_suppressing ctx asked
    rw [answer_onStore, answer_onStore]
    refine congrArg _ (funext fun _ => ?_)
    cases compiled : ctx.compileFilter index call.filter call.excludeField call.filterSelf none with
    | error e =>
      rw [Decision.make_onStore_of_error rooted names served (call.tierRequest accessibility) compiled,
        Decision.make_onStore_of_error rooted names served (call.tierRequest .accessible) compiled]
    | ok query =>
      obtain ⟨paths, made, owned⟩ :=
        Decision.exists_make_onStore serves rooted names served (call.tierRequest accessibility) compiled
      obtain ⟨paths', made', owned'⟩ :=
        Decision.exists_make_onStore serves rooted names served (call.tierRequest .accessible) compiled
      have narrowed : Decision.regular ctx scope (call.tierRequest .accessible) paths' =
          .ok (if paths'.isEmpty then .passThrough else .accessibleOnly scope) :=
        Decision.regular_of_accessible rfl
      rw [made, made', narrowed]
      by_cases within : paths.isEmpty = true
      · -- every document that passes the filter is owned, so there is none
        have unseen : ctx.Excludes st index call.filter call.excludeField call.filterSelf
            (Filter.both call.restriction none) := by
          rw [Filter.both_none]
          refine fun q compiled' => List.filter_eq_nil_iff.mpr fun doc stored admitted => ?_
          have passed := Context.admits_of_compileFilter compiled compiled' admitted
          have reached := owned.mp within doc (List.mem_filter.mpr ⟨stored, passed⟩)
          rw [Scope.owns, Bool.and_eq_true, Scope.reaches_iff, nothing] at reached
          simp at reached
        have plain : (Mediation.mk ctx scope).act index .passThrough call = call.limited ctx index none :=
          act_of_unshadowed _ index rfl call
        rw [suppressing scope _ paths rfl counts (.inl within), if_pos (owned'.mpr (owned.mp within)),
          Outcome.ofExcept_ok, Outcome.ofExcept_ok, Outcome.value_bind, Outcome.value_bind, plain]
        exact act_onStore_of_marks marks rooted names.authField kind counts unseen
      · rw [Decision.regular_of_isDegraded degraded counts within,
          if_neg fun within' => within (owned.mpr (owned'.mp within'))]

/-! ### Concealed records stored and not stored -/

/-- A scope resolved from a store, in which the alias of missing values is no path. -/
structure Scope.ResolvedOn (ctx : Context) (grants : Except (List String) GrantTable) (st : Store R)
    (scope : Scope) : Prop where
  /-- The store serves the context. -/
  serves : ctx.Serves st
  /-- The scope is what the store says of the grants. -/
  resolved : (Scope.resolve ctx grants : Dialogue R Scope).onStore st = .value scope
  /-- It names paths. -/
  names : scope.NamesPaths ctx
  /-- What is accessible is a matter of the grants. -/
  accessible : scope.accessible = ctx.accessiblePaths grants

section Concealed

variable {ctx : Context} {index : String} {s : Schema} {f : Field} {st st' : Store R}
  {grants : Except (List String) GrantTable} {scope scope' : Scope} {hidden : String → Json R → Bool}

omit [Scalar R] in
/-- What selects none of the removed documents selects the same of a store without them. -/
theorem Store.filter_documents_without {p : Json R → Bool}
    (dropped : ∀ doc ∈ st.documents index, hidden index doc = true → p doc = false) :
    (st.documents index).filter p = ((st.without hidden).documents index).filter p := by
  rw [documents_without, List.filter_filter]
  refine List.filter_congr fun doc stored => ?_
  cases gone : hidden index doc with
  | true => rw [dropped doc stored gone, Bool.false_and]
  | false => rw [Bool.not_false, Bool.and_true]

namespace Scope

theorem exists_resolvedOn (serves : ctx.Serves st)
    (free : ∀ a, ctx.missingAlias = some a → a ∉ ctx.grantedPaths grants) :
    ∃ scope, ResolvedOn ctx grants st scope := by
  obtain ⟨scope, resolved, auth, accessible⟩ := exists_resolve_onStore serves grants
  exact ⟨scope, serves, resolved, namesPaths_of_accessible free auth accessible, accessible⟩

variable (here : ResolvedOn ctx grants st scope) (there : ResolvedOn ctx grants st' scope')

namespace ResolvedOn

include here there

theorem isDegraded_eq : scope.isDegraded = scope'.isDegraded :=
  (isDegraded_of_resolve here.serves here.resolved).trans
    (isDegraded_of_resolve there.serves there.resolved).symm

theorem accessibleMembership_congr :
    (scope.accessibleMembership : Filter R) = scope'.accessibleMembership := by
  rw [accessibleMembership_eq here.names.reserved, accessibleMembership_eq there.names.reserved,
    here.names.authField, there.names.authField, here.accessible, there.accessible]

theorem exclusionClause_congr :
    (scope.exclusionClause ctx.missingAlias f : Query R) = scope'.exclusionClause ctx.missingAlias f := by
  simp only [exclusionClause, membershipClause, here.names.authField, there.names.authField,
    here.accessible, there.accessible]

/-- Whether a document is out of reach does not depend on the documents it is stored with. -/
theorem selects_unaccessible_congr (whole : scope.isDegraded = false)
    (configured : index ∈ ctx.config.indexNames) {doc : Json R} (stored : doc ∈ st.documents index)
    (stored' : doc ∈ st'.documents index) :
    (scope.membershipClause ctx.missingAlias scope.unaccessible : Query R).selects doc =
      (scope'.membershipClause ctx.missingAlias scope'.unaccessible : Query R).selects doc := by
  have whole' : scope'.isDegraded = false := isDegraded_eq here there ▸ whole
  rw [Bool.eq_iff_iff, selects_unaccessible_iff here.serves here.resolved whole configured stored,
    selects_unaccessible_iff there.serves there.resolved whole' configured stored', here.accessible,
    there.accessible]

end ResolvedOn

end Scope

variable (here : Scope.ResolvedOn ctx grants st scope)
  (there : Scope.ResolvedOn ctx grants (st.without hidden) scope')
  (concealed : ∀ doc ∈ st.documents index, hidden index doc = true → ctx.conceals grants f doc = true)

include here there concealed

/-- The exclusion of sensitive records drops the concealed ones. -/
theorem Store.filter_exclusionClause_without :
    (st.documents index).filter (scope.exclusionClause ctx.missingAlias f).selects =
      ((st.without hidden).documents index).filter (scope'.exclusionClause ctx.missingAlias f).selects := by
  rw [← here.exclusionClause_congr there]
  exact filter_documents_without fun doc stored gone =>
    Scope.not_selects_exclusionClause_of_conceals here.names here.accessible
      (here.names.authField ▸ here.serves.texts index doc stored) (concealed doc stored gone)

/-- The shadow drops the concealed records too, and what else is out of reach stays so. -/
theorem Store.filter_shadowClause_without (whole : scope.isDegraded = false)
    (configured : index ∈ ctx.config.indexNames) :
    (st.documents index).filter (scope.shadowClause ctx.missingAlias f).selects =
      ((st.without hidden).documents index).filter (scope'.shadowClause ctx.missingAlias f).selects := by
  have narrowed (st : Store R) (scope : Scope) :
      (st.documents index).filter (scope.shadowClause ctx.missingAlias f).selects =
        ((st.documents index).filter (scope.exclusionClause ctx.missingAlias f).selects).filter
          (scope.membershipClause ctx.missingAlias scope.unaccessible).selects := by
    rw [List.filter_filter]
    exact List.filter_congr fun doc _ => by simp [Scope.shadowClause, Bool.and_comm]
  rw [narrowed, narrowed, filter_exclusionClause_without here there concealed]
  refine List.filter_congr fun doc kept => ?_
  have stored' := List.mem_of_mem_filter kept
  have stored := stored'
  rw [documents_without] at stored
  exact here.selects_unaccessible_congr there whole configured (List.mem_of_mem_filter stored) stored'

variable (rooted : ctx.Rooted index) (served : ctx.config.effectiveLevel index = some .regular)

include rooted served

/-- The accessible part shows nothing of what is concealed. -/
theorem Mediation.answer_accessible_without (call : Call R) :
    ((Mediation.mk ctx scope).answer index .accessible call).onStore st =
      ((Mediation.mk ctx scope').answer index .accessible call).onStore (st.without hidden) := by
  have view : (st.documents index).filter scope.reaches =
      ((st.without hidden).documents index).filter scope.reaches := by
    refine Store.filter_documents_without fun doc stored gone => ?_
    have apart := concealed doc stored gone
    rw [Context.conceals, Bool.and_eq_true, Bool.not_eq_true', ← here.accessible,
      ← here.names.authField] at apart
    exact apart.2
  have shows : ctx.ShowsAccessible index .accessible := .inr ⟨served, rfl⟩
  rw [answer_onStore_eq (m := ⟨ctx, scope⟩) here.serves rooted here.names shows call,
    answer_onStore_eq (m := ⟨ctx, scope'⟩) there.serves rooted there.names shows call,
    ← here.accessibleMembership_congr there,
    Call.accessible_onStore_eq rooted here.names (here.names.authField ▸ here.serves.texts index)
      (here.names.authField ▸ there.serves.texts index) view call]

/-- Where counts are suppressed, a call does not show what is concealed either. -/
theorem Mediation.answer_suppressing_without (marks : ctx.Marks index s f)
    (whole : scope.isDegraded = false) {accessibility : Accessibility}
    (beyond : accessibility ≠ .accessible) {call : Call R} (counts : call.isRaw = false) :
    ((Mediation.mk ctx scope).answer index accessibility call).onStore st =
      ((Mediation.mk ctx scope').answer index accessibility call).onStore (st.without hidden) := by
  have whole' : scope'.isDegraded = false := here.isDegraded_eq there ▸ whole
  rw [answer_onStore, answer_onStore]
  refine congrArg _ (funext fun _ => ?_)
  cases compiled : ctx.compileFilter index call.filter call.excludeField call.filterSelf none with
  | error e =>
    rw [Decision.make_onStore_of_error rooted here.names served (call.tierRequest accessibility) compiled,
      Decision.make_onStore_of_error rooted there.names served (call.tierRequest accessibility) compiled]
    rfl
  | ok query =>
    obtain ⟨decide, kind, suppressing⟩ := Decision.exists_suppressing (R := R) ctx beyond
    obtain ⟨paths, made, -⟩ := Decision.exists_make_onStore here.serves rooted here.names served
      (call.tierRequest accessibility) compiled
    obtain ⟨paths', made', -⟩ := Decision.exists_make_onStore there.serves rooted there.names served
      (call.tierRequest accessibility) compiled
    rw [made, made', suppressing scope _ paths rfl counts (.inr whole),
      suppressing scope' _ paths' rfl counts (.inr whole')]
    exact act_onStore_congr_of_marks marks rooted here.names.authField there.names.authField kind counts
      (Store.filter_exclusionClause_without here there concealed)
      (Store.filter_shadowClause_without here there concealed whole
        (Context.mem_indexNames_of_schema marks.known))

end Concealed

/-- No aggregation on a regular index tells whether concealed records are stored: the answer to a call is
the same on a store and on the store without some of the concealed records of the index, whatever else
other indices are without. The scope is resolved on each store. -/
theorem answer_without_concealed {ctx : Context} {index : String} {s : Schema} {f : Field} {st : Store R}
    (serves : ctx.Serves st) (rooted : ctx.Rooted index)
    (served : ctx.config.effectiveLevel index = some .regular) (marks : ctx.Marks index s f)
    {grants : Except (List String) GrantTable}
    (free : ∀ a, ctx.missingAlias = some a → a ∉ ctx.grantedPaths grants)
    (hidden : String → Json R → Bool)
    (concealed : ∀ doc ∈ st.documents index, hidden index doc = true → ctx.conceals grants f doc = true)
    {call : Call R} (counts : call.isRaw = false) (accessibility : Accessibility) :
    (Mediation.session ctx grants index accessibility call).onStore st =
      (Mediation.session ctx grants index accessibility call).onStore (st.without hidden) := by
  obtain ⟨scope, here⟩ := Scope.exists_resolvedOn serves free
  obtain ⟨scope', there⟩ := Scope.exists_resolvedOn (serves.without hidden) free
  have shown := Mediation.answer_accessible_without here there concealed rooted served call
  rw [Mediation.session, Dialogue.onStore_bind, Dialogue.onStore_bind, here.resolved, there.resolved,
    Outcome.value_bind, Outcome.value_bind]
  by_cases asked : accessibility = .accessible
  · rwa [asked]
  · cases whole : scope.isDegraded with
    | true =>
      -- both scopes reach nothing
      have whole' : scope'.isDegraded = true := here.isDegraded_eq there ▸ whole
      have nothing := Scope.accessible_eq_nil_of_resolve
        (Dialogue.yields_store_iff.mpr ⟨here.resolved, rfl⟩) whole
      have nothing' := Scope.accessible_eq_nil_of_resolve
        (Dialogue.yields_store_iff.mpr ⟨there.resolved, rfl⟩) whole'
      rwa [Mediation.answer_onStore_of_isDegraded here.serves rooted marks served here.names whole nothing counts,
        Mediation.answer_onStore_of_isDegraded there.serves rooted marks served there.names whole' nothing' counts]
    | false =>
      exact Mediation.answer_suppressing_without here there concealed rooted served marks whole asked counts

/-! ### Subjects with visits -/

namespace Sample

/-- The flag of a visit. -/
def flag : Field := ⟨"visits.flag", .text, ["visits"], false, false⟩

/-- What is read of the index of subjects with visits. -/
def visits : Schema where
  index := "subject"
  contentHash := ""
  fields := [⟨"auth_resource_path", .text, [], false, false⟩, flag]

/-- A site of subjects that are marked as sensitive by the flag of a visit. It suppresses no count. -/
def flagged : Context where
  config := {
    (context .regular).config with
    tier := { level := some .regular, limit := some 1, sensitiveField := some "visits.flag" } }
  registry := { entries := [("subject", { schema := visits, stamp := 0 })] }
  patience := 100

/-- A subject with a path, and with a visit for each flag. -/
def visited (path : String) (flags : List String) : Json Rat :=
  Json.object [("auth_resource_path", some (.str path)),
    ("visits", some (.arr (flags.map fun value => Json.object [("flag", some (.str value))])))]

/-- An accessible subject, and two out of reach of which one is marked by its second visit. -/
def visitors : Store Rat :=
  store [visited "/a" ["true"], visited "/b" ["false", "true"], visited "/b" ["false"]]

theorem marks_flag : flagged.Marks "subject" visits flag where
  known := rfl
  sensitive := rfl
  found := rfl
  text := rfl
  free := by decide

theorem serves_visitors : flagged.Serves visitors := by
  refine Context.serves_of_entries (by rfl) (fun entry h => ?_) (by decide +kernel) (by decide +kernel)
  cases List.mem_singleton.mp h
  decide

end Sample

/-- Two of three subjects are counted, as if the marked one were not stored. -/
theorem marked_subject_not_counted :
    (Mediation.session Sample.flagged (Sample.granting "/a") "subject" .all (.total none : Call Rat)).onStore
        Sample.visitors = .value (.total 2) ∧
      (Mediation.session Sample.flagged (Sample.granting "/a") "subject" .all (.total none : Call Rat)).onStore
        (Sample.store [Sample.visited "/a" ["true"], Sample.visited "/b" ["false"]]) = .value (.total 2) := by
  have rooted : Sample.flagged.Rooted "subject" := by
    rintro s known
    cases known
    exact ⟨_, rfl, rfl, rfl⟩
  have free : ∀ a, Sample.flagged.missingAlias = some a →
      a ∉ Sample.flagged.grantedPaths (Sample.granting "/a") := by
    rintro _ ⟨⟩
    decide +kernel
  have removed : Sample.visitors.without (fun _ => Sample.flagged.conceals (Sample.granting "/a") Sample.flag) =
      Sample.store [Sample.visited "/a" ["true"], Sample.visited "/b" ["false"]] := by
    rfl
  have served : Sample.flagged.config.effectiveLevel "subject" = some .regular := rfl
  have counts : (.total none : Call Rat).isRaw = false := rfl
  have same := answer_without_concealed Sample.serves_visitors rooted served Sample.marks_flag free
    (fun _ => Sample.flagged.conceals (Sample.granting "/a") Sample.flag) (fun _ _ concealed => concealed)
    counts .all
  have counted : (Mediation.session Sample.flagged (Sample.granting "/a") "subject" .all
      (.total none : Call Rat)).onStore Sample.visitors = .value (.total 2) := by
    rfl
  rw [removed] at same
  exact ⟨counted, same.symm.trans counted⟩

end TieredSearch
