import TieredSearch.Number.Rational
import TieredSearch.Proofs.Filter.Rooted
import TieredSearch.Proofs.Scope.Resolution
import TieredSearch.Tier.Mediation

/-!
# The two memberships of a scope

A resolved scope splits the documents of its indices by two restrictions, to the accessible
documents and to those out of reach. What is out of reach is what the listings of the indices name
and the caller may not read (`Scope.mem_unaccessible_iff`); what a restriction selects is said
document by document in `Scope.selects_membershipClause_iff`. Main statement
(`selected_iff_ordinary_path`): which documents one of the two selects, and which of them
exactly one. A stored path that is the reserved key, or the alias of missing values, is listed as
a path and restricted to as an absence, so that a document with no other path escapes both.
-/

namespace TieredSearch

open Document (valuesAt textsAt holdsTexts)

variable {R : Type}

/-! ### What is out of reach -/

/-- A key that the listing of an index names: a path of one of its documents, or the reserved key
if one of them has no path. -/
def Context.Names (ctx : Context) (st : Store R) (index key : String) : Prop :=
  (∃ doc ∈ st.documents index, key ∈ textsAt doc ctx.config.aggregation.authField) ∨
    (∃ doc ∈ st.documents index, valuesAt doc ctx.config.aggregation.authField = []) ∧
      key = unownedKey

/-- Only configured indices have a schema. -/
theorem Context.mem_indexNames_of_schema {ctx : Context} {index : String} {s : Schema}
    (known : ctx.schema index = .ok s) : index ∈ ctx.config.indexNames := by
  rw [Context.schema] at known
  split at known
  · cases known
  next configured =>
    obtain ⟨entry, found⟩ : ∃ entry, ctx.config.index? index = some entry := by
      simpa [Option.ne_none_iff_exists'] using configured
    have named : entry.index = index := by simpa using List.find?_some found
    exact List.mem_map.mpr ⟨entry, List.mem_of_find?_eq_some found, named⟩

namespace Scope

variable [Scalar R] {ctx : Context} {st : Store R}

/-- The listing of an index names its paths. -/
theorem mem_keys_of_settle_onStore (lists : ctx.ListsFrom st) {index : String}
    {buckets : List TermBucket}
    (h : ((pathsRequest ctx.config.aggregation.authField none none true : TermsRequest R).run ctx
      index).settle.onStore st = .value (.ok buckets)) (key : String) :
    key ∈ buckets.map (·.key) ↔ ctx.Names st index key := by
  rw [Dialogue.onStore_settle, Outcome.settle_eq_value_ok_iff] at h
  obtain ⟨plan, planned⟩ := TermsRequest.exists_plan_of_run_onStore h
  have whole : st.selected index plan.query = st.documents index := by
    obtain ⟨s, f, query, known, -, compiled, rfl⟩ := TermsRequest.plan_eq_ok_iff.mp planned
    rw [pathsRequest, Context.compileFilter_eq known] at compiled
    cases compiled
    exact List.filter_eq_self.mpr fun _ _ => rfl
  obtain ⟨found, run, listed⟩ := TermsRequest.exists_run_onStore planned rfl
    (fun doc stored => lists.texts index doc (List.mem_of_mem_filter stored)) lists.paged lists.patient
    lists.small
  cases h.symm.trans run
  rw [listed, whole]
  rfl

/-- All listings together name the keys of every index. -/
theorem mem_keys_of_listings (lists : ctx.ListsFrom st) {names : List String}
    {results : List (Except QueryError (List TermBucket))} {buckets : List TermBucket}
    (run : (Dialogue.all (names.map fun index =>
      ((pathsRequest ctx.config.aggregation.authField none none true : TermsRequest R).run ctx
        index).settle)).onStore st = .value results)
    (listed : listings results = .ok buckets) (key : String) :
    key ∈ buckets.map (·.key) ↔ ∃ index ∈ names, ctx.Names st index key := by
  induction names generalizing results buckets with
  | nil =>
    cases run
    cases listed
    simp
  | cons index names ih =>
    rw [List.map_cons, Dialogue.all, Dialogue.onStore_bind, Outcome.bind_eq_value_iff] at run
    obtain ⟨first, here, run⟩ := run
    rw [Dialogue.onStore_bind, Outcome.bind_eq_value_iff] at run
    obtain ⟨rest, there, same⟩ := run
    cases same
    cases first with
    | error e => cases listed
    | ok own =>
      rw [listings] at listed
      cases others : listings rest with
      | error e =>
        rw [others] at listed
        cases listed
      | ok further =>
        rw [others] at listed
        cases listed
        rw [List.map_append, List.mem_append, mem_keys_of_settle_onStore lists here,
          ih there others, List.exists_mem_cons_iff]

/-- Out of reach is what is stored in some index and may not be read. -/
theorem mem_unaccessible_iff (serves : ctx.Serves st)
    {grants : Except (List String) GrantTable} {scope : Scope}
    (resolved : (resolve ctx grants : Dialogue R Scope).onStore st = .value scope)
    (whole : scope.isDegraded = false) (key : String) :
    key ∈ scope.unaccessible ↔
      key ∉ scope.accessible ∧ ∃ index ∈ ctx.config.indexNames, ctx.Names st index key := by
  cases grants with
  | error reasons =>
    cases resolved
    cases whole
  | ok table =>
    rw [resolve, Dialogue.onStore_bind, Outcome.bind_eq_value_iff] at resolved
    obtain ⟨results, run, same⟩ := resolved
    cases same
    cases listed : listings results with
    | error e =>
      rw [ofListings, listed] at whole
      cases whole
    | ok buckets =>
      rw [ofListings, listed]
      simp only [outside, Sorting.mem_ascending, List.mem_filter,
        mem_keys_of_listings serves.listsFrom run listed]
      rw [and_comm]
      simp

/-- In a scope that is not degraded, the paths of every configured index could be listed. -/
theorem exists_schema_of_resolve (serves : ctx.Serves st)
    {grants : Except (List String) GrantTable} {scope : Scope}
    (resolved : (resolve ctx grants : Dialogue R Scope).onStore st = .value scope)
    (whole : scope.isDegraded = false) {index : String} (configured : index ∈ ctx.config.indexNames) :
    ∃ s, ctx.schema index = .ok s := by
  have listed : ctx.config.indexNames.all ctx.listsPaths = true := by
    have settled := isDegraded_of_resolve serves resolved
    rw [whole, eq_comm, Bool.not_eq_false', Bool.and_eq_true] at settled
    exact settled.2
  have lists : ctx.listsPaths index = true := List.all_eq_true.mp listed index configured
  cases known : ctx.schema index with
  | error e =>
    rw [Context.listsPaths, known] at lists
    cases lists
  | ok s => exact ⟨s, rfl⟩

/-! ### What a restriction selects -/

/-- The clause that a restriction to paths compiles to. -/
def membershipClause (missingAlias : Option String) (scope : Scope) (paths : List String) : Query R :=
  let listed := Filter.membership missingAlias [] scope.authField (paths.filter (· ≠ unownedKey))
  if paths.contains unownedKey then .anyOf [listed, .noneOf (.present scope.authField)] else listed

/-- The restriction to paths is one outside nested objects. -/
theorem atRoot_membership {t : Filter.Target} {scope : Scope} {f : Field}
    (found : t.schema.field? scope.authField = some f) (text : f.kind = .text)
    (root : f.nestedPath = []) (paths : List String) :
    Filter.AtRoot t (scope.membership paths : Filter R) (scope.membershipClause t.missingAlias paths) := by
  have listed := Filter.AtRoot.isIn (R := R) found text root (paths.filter (· ≠ unownedKey))
  have missing := Filter.AtRoot.missing (R := R) found root
  rw [membership, membershipClause]
  split_ifs with reserved
  · exact listed.anyOf missing.compiled
  · exact listed

/-- In a document that holds texts, the restriction to paths looks for one of them that no key stands
for; a document without a path it selects for the sake of a key. -/
theorem selects_membershipClause_iff {missingAlias : Option String} {scope : Scope} {doc : Json R}
    (texts : holdsTexts doc scope.authField = true) (paths : List String) :
    (scope.membershipClause missingAlias paths : Query R).selects doc = true ↔
      (∃ p ∈ textsAt doc scope.authField, p ∈ paths ∧ p ≠ unownedKey ∧ missingAlias ≠ some p) ∨
        textsAt doc scope.authField = [] ∧
          (unownedKey ∈ paths ∨ ∃ a ∈ paths, missingAlias = some a) := by
  have values := Document.valuesAt_eq_map_textsAt texts
  have listed : (Filter.membership missingAlias [] scope.authField
        (paths.filter (· ≠ unownedKey)) : Query R).selects doc = true ↔
      (∃ p ∈ textsAt doc scope.authField, p ∈ paths ∧ p ≠ unownedKey ∧ missingAlias ≠ some p) ∨
        (∃ a ∈ paths, a ≠ unownedKey ∧ missingAlias = some a) ∧
          textsAt doc scope.authField = [] := by
    rw [Filter.selects_membership_iff]
    simp only [Document.narrowings, List.mem_singleton, exists_eq_left, forall_eq, values,
      List.mem_map, List.map_eq_nil_iff, List.mem_filter, decide_eq_true_eq]
    simp [and_assoc]
  by_cases reserved : unownedKey ∈ paths
  · have absent : (Query.noneOf (.present scope.authField) : Query R).selects doc = true ↔
        textsAt doc scope.authField = [] := by
      simp [values]
    rw [membershipClause, if_pos (List.contains_iff_mem.mpr reserved), Query.selects_anyOf,
      List.isEmpty_cons, Bool.false_or, List.any_cons, List.any_cons, List.any_nil, Bool.or_false,
      Bool.or_eq_true, listed, absent, or_assoc]
    refine or_congr_right ⟨fun h => ⟨h.elim And.right id, .inl reserved⟩, fun h => .inr h.1⟩
  · have owned : (∃ a ∈ paths, a ≠ unownedKey ∧ missingAlias = some a) ↔
        ∃ a ∈ paths, missingAlias = some a := by
      refine exists_congr fun a => and_congr_right fun granted => and_iff_right ?_
      rintro rfl
      exact reserved granted
    rw [membershipClause, if_neg fun h => reserved (List.contains_iff_mem.mp h), listed, owned,
      or_iff_right reserved, and_comm (b := textsAt doc scope.authField = [])]

end Scope

/-! ### Both restrictions -/

/-- A path that is neither the reserved key nor the alias of missing values. -/
def Context.IsOrdinary (ctx : Context) (path : String) : Prop :=
  path ≠ unownedKey ∧ ctx.missingAlias ≠ some path

namespace Scope

variable [Scalar R] {ctx : Context} {st : Store R} {index : String} {doc : Json R}
    {grants : Except (List String) GrantTable} {scope : Scope}

section Resolved

variable (serves : ctx.Serves st)
    (resolved : (resolve ctx grants : Dialogue R Scope).onStore st = .value scope)
    (whole : scope.isDegraded = false) (configured : index ∈ ctx.config.indexNames)
    (stored : doc ∈ st.documents index)

include serves resolved whole configured stored in
/-- Every path of a stored document is accessible or out of reach, and not both. -/
theorem mem_unaccessible_of_mem_textsAt {p : String}
    (hp : p ∈ textsAt doc ctx.config.aggregation.authField) :
    p ∈ scope.unaccessible ↔ p ∉ scope.accessible := by
  rw [mem_unaccessible_iff serves resolved whole]
  exact and_iff_left ⟨index, configured, .inl ⟨doc, stored, hp⟩⟩

include serves resolved whole configured stored in
/-- Where a document without a path is stored, the reserved key is out of reach. -/
theorem unownedKey_mem_unaccessible (bare : textsAt doc ctx.config.aggregation.authField = []) :
    unownedKey ∈ scope.unaccessible := by
  rw [mem_unaccessible_iff serves resolved whole]
  refine ⟨(resolve_granted resolved).2, index, configured, .inr ⟨⟨doc, stored, ?_⟩, rfl⟩⟩
  rw [Document.valuesAt_eq_map_textsAt (serves.texts index doc stored), bare, List.map_nil]

include serves resolved stored in
/-- The restriction to accessible documents selects a stored document for an ordinary path that is
accessible, or for the alias if the document has no path. -/
theorem selects_accessible_iff :
    (scope.membershipClause ctx.missingAlias scope.accessible : Query R).selects doc = true ↔
      (∃ p ∈ textsAt doc ctx.config.aggregation.authField, ctx.IsOrdinary p ∧ p ∈ scope.accessible) ∨
        textsAt doc ctx.config.aggregation.authField = [] ∧
          ∃ a ∈ scope.accessible, ctx.missingAlias = some a := by
  obtain ⟨auth, reserved⟩ := resolve_granted resolved
  have texts : holdsTexts doc scope.authField = true := auth ▸ serves.texts index doc stored
  rw [selects_membershipClause_iff texts, auth, or_iff_right (a := unownedKey ∈ _) reserved]
  refine or_congr_left (exists_congr fun p => and_congr_right fun _ => ?_)
  rw [Context.IsOrdinary, and_comm]

include serves resolved whole configured stored in
/-- The restriction to documents out of reach selects a stored document for an ordinary path that is
not accessible, or because the document has no path. -/
theorem selects_unaccessible_iff :
    (scope.membershipClause ctx.missingAlias scope.unaccessible : Query R).selects doc = true ↔
      (∃ p ∈ textsAt doc ctx.config.aggregation.authField, ctx.IsOrdinary p ∧ p ∉ scope.accessible) ∨
        textsAt doc ctx.config.aggregation.authField = [] := by
  have auth := (resolve_granted resolved).1
  have texts : holdsTexts doc scope.authField = true := auth ▸ serves.texts index doc stored
  rw [selects_membershipClause_iff texts, auth]
  refine or_congr (exists_congr fun p => and_congr_right fun hp => ?_) (and_iff_left_of_imp fun bare => .inl ?_)
  · rw [mem_unaccessible_of_mem_textsAt serves resolved whole configured stored hp,
      Context.IsOrdinary, and_comm]
  · exact unownedKey_mem_unaccessible serves resolved whole configured stored bare

end Resolved

end Scope

/-- Both restrictions of a scope compile on a configured index. A stored document is selected
by one of them exactly when it has no path or one that is neither the reserved key nor the
alias of missing values. A document with a single path is selected by exactly one of them
exactly when that path is neither key; a document without a path, exactly when the alias is
not accessible. -/
theorem selected_iff_ordinary_path [Scalar R] {ctx : Context} {st : Store R} (serves : ctx.Serves st)
    {grants : Except (List String) GrantTable} {scope : Scope}
    (resolved : (Scope.resolve ctx grants : Dialogue R Scope).onStore st = .value scope)
    (whole : scope.isDegraded = false) {index : String} (configured : index ∈ ctx.config.indexNames)
    (rooted : ctx.Rooted index) :
    ∃ within beyond : Query R,
      ctx.compileFilter index none none true (some scope.accessibleMembership) = .ok (some within) ∧
      ctx.compileFilter index none none true (some scope.unaccessibleMembership) = .ok (some beyond) ∧
      ∀ doc ∈ st.documents index,
        ((within.selects doc = true ∨ beyond.selects doc = true) ↔
          textsAt doc ctx.config.aggregation.authField = [] ∨
            ∃ p ∈ textsAt doc ctx.config.aggregation.authField, ctx.IsOrdinary p) ∧
        (∀ p, p ∈ textsAt doc ctx.config.aggregation.authField →
          (∀ p' ∈ textsAt doc ctx.config.aggregation.authField, p' = p) →
          (within.selects doc ≠ beyond.selects doc ↔ ctx.IsOrdinary p)) ∧
        (textsAt doc ctx.config.aggregation.authField = [] →
          (within.selects doc ≠ beyond.selects doc ↔
            ∀ a, ctx.missingAlias = some a → a ∉ scope.accessible)) := by
  obtain ⟨s, known⟩ := Scope.exists_schema_of_resolve serves resolved whole configured
  obtain ⟨f, found, text, root⟩ := rooted s known
  rw [← (Scope.resolve_granted resolved).1] at found
  have compiled (paths : List String) :
      ctx.compileFilter index none none true (some (scope.membership paths : Filter R)) =
        .ok (some (scope.membershipClause ctx.missingAlias paths)) := by
    rw [Context.compileFilter_eq known]
    refine Filter.compile_eq_ok_iff.mpr ⟨none, _, rfl, ?_, rfl⟩
    exact (Scope.atRoot_membership (t := ⟨s, _, _⟩) found text root paths).compiled
  refine ⟨_, _, compiled scope.accessible, compiled scope.unaccessible, fun doc stored => ?_⟩
  have within := Scope.selects_accessible_iff serves resolved stored
  have beyond := Scope.selects_unaccessible_iff serves resolved whole configured stored
  rw [ne_eq, Bool.eq_iff_iff.trans (iff_congr within beyond), within, beyond]
  refine ⟨?_, fun p hp single => ?_, fun bare => ?_⟩
  · constructor
    · rintro ((⟨p, hp, ordinary, -⟩ | ⟨bare, -⟩) | (⟨p, hp, ordinary, -⟩ | bare))
      · exact .inr ⟨p, hp, ordinary⟩
      · exact .inl bare
      · exact .inr ⟨p, hp, ordinary⟩
      · exact .inl bare
    · rintro (bare | ⟨p, hp, ordinary⟩)
      · exact .inr (.inr bare)
      · by_cases granted : p ∈ scope.accessible
        · exact .inl (.inl ⟨p, hp, ordinary, granted⟩)
        · exact .inr (.inl ⟨p, hp, ordinary, granted⟩)
  · have some : textsAt doc ctx.config.aggregation.authField ≠ [] := List.ne_nil_of_mem hp
    have only {P : String → Prop} :
        (∃ p' ∈ textsAt doc ctx.config.aggregation.authField, P p') ↔ P p :=
      ⟨fun ⟨p', hp', h⟩ => single p' hp' ▸ h, fun h => ⟨p, hp, h⟩⟩
    rw [only, only]
    simp only [some, false_and, or_false]
    by_cases granted : p ∈ scope.accessible <;> simp [granted]
  · rw [bare]
    simp only [List.not_mem_nil, false_and, exists_false, false_or, true_and, iff_true, not_exists,
      not_and]
    exact forall_congr' fun a => imp_not_comm

/-- Of two subjects, one with an accessible path and one with a path out of reach, each is selected
by exactly one of the restrictions. -/
theorem mixed_subjects_selected_once :
    ∃ within beyond : Query Rat,
      (Sample.context .regular).compileFilter "subject" none none true
        (some (Sample.scope ["/a"] ["/b"]).accessibleMembership) = .ok (some within) ∧
      (Sample.context .regular).compileFilter "subject" none none true
        (some (Sample.scope ["/a"] ["/b"]).unaccessibleMembership) = .ok (some beyond) ∧
      within.selects (Sample.subject (some "/a") 10) ≠ beyond.selects (Sample.subject (some "/a") 10) ∧
      within.selects (Sample.subject (some "/b") 30) ≠ beyond.selects (Sample.subject (some "/b") 30) := by
  have serves : (Sample.context .regular).Serves Sample.mixed :=
    Sample.serves (by decide) (by decide) (by decide)
  have resolved : (Scope.resolve (Sample.context .regular) (Sample.granting "/a") :
      Dialogue Rat Scope).onStore Sample.mixed = .value (Sample.scope ["/a"] ["/b"]) := by
    rfl
  have configured : "subject" ∈ (Sample.context .regular).config.indexNames := by decide
  obtain ⟨within, beyond, compiledWithin, compiledBeyond, selected⟩ :=
    selected_iff_ordinary_path serves resolved rfl configured (Sample.rooted .regular)
  have stored : Sample.mixed.documents "subject" =
      [Sample.subject (some "/a") 10, Sample.subject (some "/b") 30] := rfl
  rw [stored] at selected
  refine ⟨within, beyond, compiledWithin, compiledBeyond, ?_, ?_⟩
  · exact ((selected _ (by simp)).2.1 "/a" (by decide) (by decide)).mpr ⟨by decide, by decide⟩
  · exact ((selected _ (by simp)).2.1 "/b" (by decide) (by decide)).mpr ⟨by decide, by decide⟩

/-- A subject whose path is the alias of missing values is selected by neither restriction, and not
counted among those out of reach. -/
theorem subject_named_like_alias_selected_by_neither :
    (Sample.context .regular).config.validate = .ok () ∧
    (Scope.resolve (Sample.context .regular) (Sample.granting "/a") : Dialogue Rat Scope).onStore
      (Sample.store [Sample.subject (some "no data") 10]) = .value (Sample.scope ["/a"] ["no data"]) ∧
    (∃ within beyond : Query Rat,
      (Sample.context .regular).compileFilter "subject" none none true
        (some (Sample.scope ["/a"] ["no data"]).accessibleMembership) = .ok (some within) ∧
      (Sample.context .regular).compileFilter "subject" none none true
        (some (Sample.scope ["/a"] ["no data"]).unaccessibleMembership) = .ok (some beyond) ∧
      within.selects (Sample.subject (some "no data") 10) = false ∧
      beyond.selects (Sample.subject (some "no data") 10) = false) ∧
    ((Mediation.mk (Sample.context .regular) (Sample.scope ["/a"] ["no data"])).total "subject" none
      .unaccessible : Dialogue Rat Int).onStore (Sample.store [Sample.subject (some "no data") 10]) =
        .value 0 := by
  exact ⟨rfl, rfl, ⟨_, _, rfl, rfl, rfl, rfl⟩, rfl⟩

end TieredSearch
