import TieredSearch.Proofs.Aggregation.Listing
import TieredSearch.Proofs.Search.Run
import TieredSearch.Query.Document
import TieredSearch.Scope.Basic

/-!
# Scopes on a store

A document belongs to the resource paths it holds. A scope reaches the documents that hold one of its accessible
paths (`Scope.reaches`), and owns those of which all paths are accessible (`Scope.owns`).

A store that holds its resource paths as texts (`Context.Serves`) resolves a scope whatever the
grants (`Scope.exists_resolve_onStore`); which paths are accessible then does not depend on the
store (`Context.accessiblePaths`). On an index whose paths lie outside nested objects
(`Context.Rooted`) the restriction to accessible documents selects those that the scope reaches
(`Scope.compileFilter_accessible`), and the listing of the paths out of scope is empty exactly when
the scope owns every document that passes the filter (`Scope.exists_outOfScope_onStore`).
-/

namespace TieredSearch

open Document (valuesAt textsAt holdsTexts)

variable {R : Type}

/-! ### Who owns a document -/

namespace Scope

/-- Whether a document holds a path the caller may read. One without a path is never reached. -/
def reaches (scope : Scope) (doc : Json R) : Bool :=
  (textsAt doc scope.authField).any scope.accessible.contains

/-- Whether every path of a document may be read, and it has one. -/
def owns (scope : Scope) (doc : Json R) : Bool :=
  scope.reaches doc && (textsAt doc scope.authField).all scope.accessible.contains

end Scope

/-! ### Sites -/

theorem Config.pageSize_pos_of_validate {c : Config} (valid : c.validate = .ok ()) :
    0 < c.aggregation.pageSize := by
  refine Nat.pos_of_ne_zero fun empty => ?_
  cases h : c.indices.isEmpty <;>
    simp [validate, empty, h, bind, Except.bind, throw, throwThe, MonadExceptOf.throw] at valid

namespace Context

/-- A store serves a context: the configuration is accepted, resource paths are texts, no listing
takes longer than the time limit, and every count fits the words of an answer. -/
structure Serves (ctx : Context) (st : Store R) : Prop where
  /-- The configuration is accepted. -/
  valid : ctx.config.validate = .ok ()
  /-- A document holds texts as its resource paths, or none. -/
  texts : ∀ index, ∀ doc ∈ st.documents index, holdsTexts doc ctx.config.aggregation.authField = true
  /-- No listing takes longer than the time limit. -/
  patient : st.size < ctx.patience
  /-- Every count fits the words of an answer. -/
  small : st.size < Number.signedBound

/-- What the resource paths need to be listed from a store, whatever the rest of the configuration. -/
structure ListsFrom (ctx : Context) (st : Store R) : Prop where
  /-- A page holds something. -/
  paged : 0 < ctx.config.aggregation.pageSize
  /-- A document holds texts as its resource paths, or none. -/
  texts : ∀ index, ∀ doc ∈ st.documents index, holdsTexts doc ctx.config.aggregation.authField = true
  /-- No listing takes longer than the time limit. -/
  patient : st.size < ctx.patience
  /-- Every count fits the words of an answer. -/
  small : st.size < Number.signedBound

theorem Serves.listsFrom {ctx : Context} {st : Store R} (serves : ctx.Serves st) : ctx.ListsFrom st where
  paged := Config.pageSize_pos_of_validate serves.valid
  texts := serves.texts
  patient := serves.patient
  small := serves.small

/-- In the schema of an index the resource paths are texts outside nested objects. -/
def Rooted (ctx : Context) (index : String) : Prop :=
  ∀ s, ctx.schema index = .ok s → ∃ f,
    s.field? ctx.config.aggregation.authField = some f ∧ f.kind = .text ∧ f.nestedPath = []

/-- In the schema of an index the resource paths are texts, outside nested objects or inside. -/
def PathsAreTexts (ctx : Context) (index : String) : Prop :=
  ∀ s, ctx.schema index = .ok s → ∃ f, s.field? ctx.config.aggregation.authField = some f ∧ f.kind = .text

theorem Rooted.pathsAreTexts {ctx : Context} {index : String} (rooted : ctx.Rooted index) :
    ctx.PathsAreTexts index := fun s known => by
  obtain ⟨f, found, text, -⟩ := rooted s known
  exact ⟨f, found, text⟩

/-- Whether the schema of an index has the field of the resource paths. -/
def listsPaths (ctx : Context) (index : String) : Bool :=
  match ctx.schema index with
  | .ok s => (s.field? ctx.config.aggregation.authField).isSome
  | .error _ => false

/-- The paths that grants let a caller read, none when the grants are not known. The reserved key is
not one of them. -/
def grantedPaths (ctx : Context) (grants : Except (List String) GrantTable) : List String :=
  match grants with
  | .ok table => Scope.readablePaths ctx table
  | .error _ => []

/-- The granted paths, unless those of some index cannot be listed. -/
def accessiblePaths (ctx : Context) (grants : Except (List String) GrantTable) : List String :=
  if ctx.config.indexNames.all ctx.listsPaths then ctx.grantedPaths grants else []

theorem mem_grantedPaths {ctx : Context} {grants : Except (List String) GrantTable} {p : String}
    (h : p ∈ ctx.accessiblePaths grants) : p ∈ ctx.grantedPaths grants := by
  rw [accessiblePaths] at h
  split at h
  · exact h
  · cases h

theorem unownedKey_not_mem_grantedPaths (ctx : Context) (grants : Except (List String) GrantTable) :
    unownedKey ∉ ctx.grantedPaths grants := by
  cases grants with
  | ok table => simp [grantedPaths, Scope.readablePaths]
  | error reasons => exact List.not_mem_nil

end Context

variable [Scalar R]

/-- A filter on an index is compiled against its schema. -/
theorem Context.compileFilter_eq {ctx : Context} {index : String} {s : Schema}
    (known : ctx.schema index = .ok s)
    (user : Option (Filter R)) (excludeField : Option String) (filterSelf : Bool)
    (extra : Option (Filter R)) :
    ctx.compileFilter index user excludeField filterSelf extra =
      Filter.compile ⟨s, ctx.missingAlias, ctx.config.aggregation.analyzedSuffix⟩ user excludeField filterSelf
        extra := by
  rw [compileFilter, target, known]
  rfl

theorem Context.exists_schema_of_compileFilter {ctx : Context} {index : String}
    {user extra : Option (Filter R)}
    {excludeField : Option String} {filterSelf : Bool} {q : Option (Query R)}
    (compiled : ctx.compileFilter index user excludeField filterSelf extra = .ok q) :
    ∃ s, ctx.schema index = .ok s := by
  obtain ⟨t, target, -⟩ := bind_eq_ok_iff.mp compiled
  obtain ⟨s, known, -⟩ := bind_eq_ok_iff.mp target
  exact ⟨s, known⟩

/-- What compiles under a restriction compiles without it. -/
theorem Context.exists_compileFilter_none {ctx : Context} {index : String}
    {user extra : Option (Filter R)}
    {excludeField : Option String} {filterSelf : Bool} {q : Option (Query R)}
    (compiled : ctx.compileFilter index user excludeField filterSelf extra = .ok q) :
    ∃ plain, ctx.compileFilter index user excludeField filterSelf none = .ok plain := by
  obtain ⟨s, known⟩ := exists_schema_of_compileFilter compiled
  rw [compileFilter_eq known] at compiled ⊢
  obtain ⟨u, -, hu, -, -⟩ := Filter.compile_eq_ok_iff.mp compiled
  exact ⟨_, Filter.compile_eq_ok_iff.mpr ⟨u, none, hu, rfl, rfl⟩⟩

/-- A restriction only takes away from what the caller's filter admits. -/
theorem Context.admits_of_compileFilter {ctx : Context} {index : String}
    {user extra : Option (Filter R)}
    {excludeField : Option String} {filterSelf : Bool} {plain q : Option (Query R)}
    (unrestricted : ctx.compileFilter index user excludeField filterSelf none = .ok plain)
    (compiled : ctx.compileFilter index user excludeField filterSelf extra = .ok q) {doc : Json R}
    (admitted : Query.admits q doc = true) : Query.admits plain doc = true := by
  obtain ⟨s, known⟩ := exists_schema_of_compileFilter unrestricted
  rw [compileFilter_eq known] at unrestricted compiled
  exact Filter.admits_of_compile unrestricted compiled admitted

namespace Scope

/-! ### Resolving -/

theorem isOk_plan_pathsRequest (ctx : Context) (index : String) :
    ((pathsRequest ctx.config.aggregation.authField none none true : TermsRequest R).plan ctx index).isOk =
      ctx.listsPaths index := by
  unfold TermsRequest.plan Context.listsPaths
  cases h : ctx.schema index with
  | error e => rfl
  | ok s =>
    have compiled :
        ctx.compileFilter index (none : Option (Filter R)) none true none = .ok none := by
      rw [Context.compileFilter, Context.target, h]
      rfl
    simp only [pathsRequest, Schema.aggregated, compiled, bind, Except.bind]
    cases s.field? ctx.config.aggregation.authField <;> rfl

/-- The paths of an index are listed unless its schema lacks their field. -/
theorem exists_settle_onStore {ctx : Context} {st : Store R} (lists : ctx.ListsFrom st)
    (index : String) :
    ∃ result, ((pathsRequest ctx.config.aggregation.authField none none true : TermsRequest R).run
      ctx index).settle.onStore st = .value result ∧ result.isOk = ctx.listsPaths index := by
  rw [← isOk_plan_pathsRequest (R := R)]
  cases planned : (pathsRequest ctx.config.aggregation.authField none none true : TermsRequest R).plan ctx index with
  | error e =>
    refine ⟨.error e, ?_, rfl⟩
    simp [TermsRequest.run, TermsRequest.enumerate, planned, Outcome.settle]
  | ok plan =>
    obtain ⟨buckets, hrun, -⟩ := TermsRequest.exists_run_onStore planned rfl
      (fun doc h => lists.texts index doc (List.mem_of_mem_filter h)) lists.paged lists.patient lists.small
    exact ⟨.ok buckets, by rw [Dialogue.onStore_settle, hrun]; rfl, rfl⟩

theorem exists_all_onStore {ctx : Context} {st : Store R} (lists : ctx.ListsFrom st)
    (names : List String) :
    ∃ results, (Dialogue.all (names.map fun index =>
        ((pathsRequest ctx.config.aggregation.authField none none true : TermsRequest R).run ctx
          index).settle)).onStore st = .value results ∧
      (listings results).isOk = names.all ctx.listsPaths := by
  induction names with
  | nil => exact ⟨[], rfl, rfl⟩
  | cons index names ih =>
    obtain ⟨result, hresult, listed⟩ := exists_settle_onStore lists index
    obtain ⟨results, hresults, all⟩ := ih
    refine ⟨result :: results, ?_, ?_⟩
    · rw [List.map_cons, Dialogue.all]
      simp only [Dialogue.onStore_bind, hresult, hresults, Outcome.value_bind,
        Dialogue.onStore_done]
    · rw [List.all_cons, ← listed, ← all]
      cases result with
      | error e => rfl
      | ok buckets => cases h : listings results <;> simp [listings, h] <;> rfl

/-- A scope is resolved from a store that serves the context, and what is accessible then is a
matter of the grants alone. -/
theorem exists_resolve_onStore {ctx : Context} {st : Store R} (serves : ctx.Serves st)
    (grants : Except (List String) GrantTable) :
    ∃ scope, (resolve ctx grants : Dialogue R Scope).onStore st = .value scope ∧
      scope.authField = ctx.config.aggregation.authField ∧
        scope.accessible = ctx.accessiblePaths grants := by
  cases grants with
  | error reasons => exact ⟨_, rfl, rfl, (ite_self _).symm⟩
  | ok table =>
    obtain ⟨results, hresults, listed⟩ := exists_all_onStore serves.listsFrom ctx.config.indexNames
    refine ⟨ofListings ctx (readablePaths ctx table) results, ?_, ?_⟩
    · simp only [resolve, Dialogue.onStore_bind, hresults, Outcome.value_bind,
        Dialogue.onStore_done]
    · rw [ofListings, Context.accessiblePaths, ← listed]
      cases listings results <;> exact ⟨rfl, rfl⟩

/-- A scope is resolved unless the grants are not known or the paths of some index cannot be listed. -/
theorem isDegraded_of_resolve {ctx : Context} {st : Store R} (serves : ctx.Serves st)
    {grants : Except (List String) GrantTable} {scope : Scope}
    (resolved : (resolve ctx grants : Dialogue R Scope).onStore st = .value scope) :
    scope.isDegraded = !(grants.isOk && ctx.config.indexNames.all ctx.listsPaths) := by
  cases grants with
  | error reasons =>
    cases resolved
    rfl
  | ok table =>
    obtain ⟨results, run, listed⟩ := exists_all_onStore serves.listsFrom ctx.config.indexNames
    rw [resolve, Dialogue.onStore_bind, run, Outcome.value_bind] at resolved
    cases resolved
    rw [ofListings, ← listed]
    cases listings results <;> rfl

/-- Whatever a backend replies, a scope that cannot be resolved reaches nothing. -/
theorem accessible_eq_nil_of_resolve {ctx : Context} {grants : Except (List String) GrantTable}
    {σ : Type} {serve : Search R → σ → Reply R × σ} {state after : σ} {scope : Scope}
    (resolved : (resolve ctx grants : Dialogue R Scope).Yields serve state scope after)
    (degraded : scope.isDegraded = true) : scope.accessible = [] := by
  cases grants with
  | error reasons =>
    cases resolved.1
    rfl
  | ok table =>
    obtain ⟨results, between, -, same⟩ := Dialogue.yields_bind.mp resolved
    cases same.1
    rw [ofListings] at degraded ⊢
    split at degraded
    · cases degraded
    · rfl

/-- A scope whose accessible entries are paths of its context: neither the reserved key nor the
alias of missing values is one. -/
structure NamesPaths (ctx : Context) (scope : Scope) : Prop where
  /-- The field is the configured one. -/
  authField : scope.authField = ctx.config.aggregation.authField
  /-- The reserved key is not accessible. -/
  reserved : unownedKey ∉ scope.accessible
  /-- The alias of missing values is not accessible. -/
  free : ∀ a, ctx.missingAlias = some a → a ∉ scope.accessible

omit [Scalar R] in
/-- Unless the alias is granted, accessible entries are paths. -/
theorem namesPaths_of_accessible {ctx : Context} {grants : Except (List String) GrantTable}
    {scope : Scope} (free : ∀ a, ctx.missingAlias = some a → a ∉ ctx.grantedPaths grants)
    (auth : scope.authField = ctx.config.aggregation.authField)
    (accessible : scope.accessible = ctx.accessiblePaths grants) : scope.NamesPaths ctx where
  authField := auth
  reserved h :=
    ctx.unownedKey_not_mem_grantedPaths grants (Context.mem_grantedPaths (accessible ▸ h))
  free a aliased h := free a aliased (Context.mem_grantedPaths (accessible ▸ h))

/-- A scope that is resolved from a store that serves the context names paths, unless the alias of
missing values is granted. -/
theorem namesPaths_of_resolve {ctx : Context} {st : Store R} (serves : ctx.Serves st)
    {grants : Except (List String) GrantTable}
    (free : ∀ a, ctx.missingAlias = some a → a ∉ ctx.grantedPaths grants) {scope : Scope}
    (resolved : (resolve ctx grants : Dialogue R Scope).onStore st = .value scope) :
    scope.NamesPaths ctx := by
  obtain ⟨found, resolved', auth, accessible⟩ := exists_resolve_onStore serves grants
  cases resolved.symm.trans resolved'
  exact namesPaths_of_accessible free auth accessible

/-- Whatever a scope is resolved from, its accessible paths are granted, and the reserved key is not
one of them. -/
theorem resolve_granted {ctx : Context} {st : Store R} {grants : Except (List String) GrantTable}
    {scope : Scope} (resolved : (resolve ctx grants : Dialogue R Scope).onStore st = .value scope) :
    scope.authField = ctx.config.aggregation.authField ∧ unownedKey ∉ scope.accessible := by
  cases grants with
  | error reasons =>
    cases resolved
    exact ⟨rfl, List.not_mem_nil⟩
  | ok table =>
    rw [resolve, Dialogue.onStore_bind, Outcome.bind_eq_value_iff] at resolved
    obtain ⟨results, -, hscope⟩ := resolved
    cases hscope
    rw [ofListings]
    cases listings results with
    | error e => exact ⟨rfl, List.not_mem_nil⟩
    | ok buckets => exact ⟨rfl, by simp [readablePaths]⟩

/-! ### The restriction to accessible documents -/

omit [Scalar R] in
theorem accessibleMembership_eq {scope : Scope} (reserved : unownedKey ∉ scope.accessible) :
    (scope.accessibleMembership : Filter R) = .isIn scope.authField scope.accessible := by
  have kept : scope.accessible.filter (· ≠ unownedKey) = scope.accessible :=
    List.filter_eq_self.mpr fun p hp => decide_eq_true fun eq => reserved (eq ▸ hp)
  rw [accessibleMembership, membership, kept, if_neg (by simpa using reserved)]

/-- Documents that hold an accessible path. -/
def accessibleClause (scope : Scope) : Query R := .terms scope.authField scope.accessible

theorem selects_accessibleClause {scope : Scope} {doc : Json R}
    (texts : holdsTexts doc scope.authField = true) :
    (scope.accessibleClause : Query R).selects doc = scope.reaches doc :=
  Query.selects_terms_of_holdsTexts texts scope.accessible

/-- The restriction to accessible documents makes no difference to whether a filter compiles, and
narrows what it admits to the documents with an accessible path. -/
theorem compileFilter_accessible {ctx : Context} {index : String} (rooted : ctx.Rooted index)
    {scope : Scope}
    (names : scope.NamesPaths ctx) (user : Option (Filter R)) (excludeField : Option String)
    (filterSelf : Bool) (own : Option (Filter R)) :
    Agree (fun before after => ∀ doc,
        Query.admits after doc =
          (Query.admits before doc && (scope.accessibleClause : Query R).selects doc))
      (ctx.compileFilter index user excludeField filterSelf own)
      (ctx.compileFilter index user excludeField filterSelf
        (Filter.both own (some scope.accessibleMembership))) := by
  cases known : ctx.schema index with
  | error e =>
    rw [Context.compileFilter, Context.compileFilter, Context.target, known]
    exact .error e
  | ok s =>
    obtain ⟨f, found, text, root⟩ := rooted s known
    rw [accessibleMembership_eq names.reserved, accessibleClause, names.authField,
      Context.compileFilter_eq known,
      Context.compileFilter_eq known]
    generalize ht : (⟨s, ctx.missingAlias, ctx.config.aggregation.analyzedSuffix⟩ : Filter.Target) = t
    have found : t.schema.field? ctx.config.aggregation.authField = some f := by rw [← ht, found]
    have free : ∀ a, t.missingAlias = some a → a ∉ scope.accessible := by
      rw [← ht]
      exact names.free
    have compiled := Filter.compileWithin_isIn (R := R) found text scope.accessible []
    rw [root, Filter.unopened, List.drop_nil, Filter.membership_eq_terms free] at compiled
    have scopes := Filter.nestedScopes_isIn (R := R) found scope.accessible
    rw [root] at scopes
    exact Filter.compile_both compiled scopes user excludeField filterSelf own

/-- Under the restriction to accessible documents, what a filter admits is reached by the scope. -/
theorem reaches_of_compileFilter {ctx : Context} {index : String} (rooted : ctx.Rooted index)
    {scope : Scope}
    (names : scope.NamesPaths ctx) {user own : Option (Filter R)} {excludeField : Option String}
    {filterSelf : Bool} {query : Option (Query R)}
    (compiled : ctx.compileFilter index user excludeField filterSelf
      (Filter.both own (some scope.accessibleMembership)) = .ok query)
    {doc : Json R} (texts : holdsTexts doc scope.authField = true)
    (admitted : Query.admits query doc = true) :
    scope.reaches doc = true := by
  have narrowed := compileFilter_accessible rooted names user excludeField filterSelf own
  rw [compiled] at narrowed
  obtain ⟨before, -, narrowed⟩ := narrowed.exists_left
  rw [narrowed, Bool.and_eq_true] at admitted
  rw [← selects_accessibleClause texts]
  exact admitted.2

omit [Scalar R] in
theorem reaches_iff {scope : Scope} {doc : Json R} :
    scope.reaches doc = true ↔ ∃ p ∈ textsAt doc scope.authField, p ∈ scope.accessible := by
  simp [reaches]

/-! ### The paths out of scope -/

omit [Scalar R] in
/-- A scope owns a document that has paths and none out of scope. -/
theorem owns_iff {scope : Scope} {doc : Json R} (texts : holdsTexts doc scope.authField = true) :
    scope.owns doc = true ↔
      valuesAt doc scope.authField ≠ [] ∧
        ∀ p ∈ textsAt doc scope.authField, p ∈ scope.accessible := by
  have values : valuesAt doc scope.authField ≠ [] ↔ textsAt doc scope.authField ≠ [] := by
    rw [Document.valuesAt_eq_map_textsAt texts, ne_eq, ne_eq, List.map_eq_nil_iff]
  rw [values, owns, reaches, Bool.and_eq_true, List.any_eq_true, List.all_eq_true]
  constructor
  · rintro ⟨⟨p, hp, -⟩, all⟩
    exact ⟨List.ne_nil_of_mem hp, fun p hp => List.contains_iff_mem.mp (all p hp)⟩
  · rintro ⟨some, all⟩
    obtain ⟨p, hp⟩ := List.exists_mem_of_ne_nil _ some
    exact ⟨⟨p, hp, List.contains_iff_mem.mpr (all p hp)⟩, fun p hp => List.contains_iff_mem.mpr (all p hp)⟩

/-- Where a filter compiles, the paths that it touches can be asked for. -/
theorem exists_plan_of_compileFilter {ctx : Context} {index : String} (texts : ctx.PathsAreTexts index)
    {scope : Scope} (auth : scope.authField = ctx.config.aggregation.authField) {user : Option (Filter R)}
    {excludeField : Option String} {filterSelf : Bool} {query : Option (Query R)}
    (compiled : ctx.compileFilter index user excludeField filterSelf none = .ok query) :
    ∃ plan, (pathsRequest scope.authField user excludeField filterSelf).plan ctx index = .ok plan ∧
      plan.query = query := by
  obtain ⟨s, known⟩ := Context.exists_schema_of_compileFilter compiled
  obtain ⟨f, found, -⟩ := texts s known
  exact ⟨_, TermsRequest.plan_eq_ok_iff.mpr ⟨s, f, query, known, auth ▸ found, compiled, rfl⟩, rfl⟩

/-- The paths out of scope that a filter touches, on a store. None are touched exactly when the
scope owns every document that passes the filter. -/
theorem exists_outOfScope_onStore {ctx : Context} {st : Store R} (serves : ctx.Serves st)
    {index : String} (rooted : ctx.Rooted index) {scope : Scope} (names : scope.NamesPaths ctx)
    {user : Option (Filter R)} {excludeField : Option String}
    {filterSelf : Bool} {query : Option (Query R)}
    (compiled : ctx.compileFilter index user excludeField filterSelf none = .ok query) :
    ∃ paths, (scope.outOfScope ctx index user excludeField filterSelf).onStore st = .value paths ∧
      (paths.isEmpty = true ↔ ∀ doc ∈ st.selected index query, scope.owns doc = true) := by
  obtain ⟨plan, planned, rfl⟩ := exists_plan_of_compileFilter rooted.pathsAreTexts names.authField compiled
  obtain ⟨buckets, hrun, listed⟩ := TermsRequest.exists_run_onStore planned rfl
    (fun doc h => by rw [pathsRequest, names.authField]; exact serves.texts index doc (List.mem_of_mem_filter h))
    (Config.pageSize_pos_of_validate serves.valid) serves.patient serves.small
  refine ⟨outside scope.accessible buckets, ?_, ?_⟩
  · simp only [outOfScope, Dialogue.onStore_bind, hrun, Outcome.value_bind, Dialogue.onStore_done]
  · have inside : (outside scope.accessible buckets).isEmpty = true ↔
        ∀ key ∈ buckets.map (·.key), key ∈ scope.accessible := by
      simp [outside, List.isEmpty_iff, List.filter_eq_nil_iff]
    have texts : ∀ doc ∈ st.selected index plan.query, holdsTexts doc scope.authField = true :=
      fun doc h => names.authField ▸ serves.texts index doc (List.mem_of_mem_filter h)
    rw [inside]
    constructor
    · intro all doc stored
      refine (owns_iff (texts doc stored)).mpr ⟨fun bare => ?_, fun p hp => ?_⟩
      · exact names.reserved (all _ ((listed unownedKey).mpr (.inr ⟨⟨doc, stored, bare⟩, rfl⟩)))
      · exact all p ((listed p).mpr (.inl ⟨doc, stored, hp⟩))
    · intro owned key hkey
      rcases (listed key).mp hkey with ⟨doc, stored, hp⟩ | ⟨⟨doc, stored, bare⟩, -⟩
      · exact ((owns_iff (texts doc stored)).mp (owned doc stored)).2 key hp
      · exact absurd bare ((owns_iff (texts doc stored)).mp (owned doc stored)).1

/-- A filter that does not compile has no listing either. -/
theorem outOfScope_onStore_of_error {ctx : Context} {index : String} (texts : ctx.PathsAreTexts index)
    {scope : Scope}
    (auth : scope.authField = ctx.config.aggregation.authField) {user : Option (Filter R)}
    {excludeField : Option String} {filterSelf : Bool} {e : QueryError}
    (refused : ctx.compileFilter index user excludeField filterSelf none = .error e)
    (st : Store R) :
    (scope.outOfScope ctx index user excludeField filterSelf).onStore st = .failed e := by
  have unplanned :
      (pathsRequest scope.authField user excludeField filterSelf).plan ctx index = .error e := by
    unfold TermsRequest.plan
    cases known : ctx.schema index with
    | error e' =>
      rw [Context.compileFilter, Context.target, known] at refused
      cases refused
      rfl
    | ok s =>
      obtain ⟨f, found, -⟩ := texts s known
      simp [pathsRequest, Schema.aggregated, auth, found, refused, bind, Except.bind]
  simp [outOfScope, TermsRequest.run, TermsRequest.enumerate, unplanned]

end Scope

/-! ### A small site -/

omit [Scalar R] in
/-- A store serves a context if the documents of each of its entries hold texts as their paths. -/
theorem Context.serves_of_entries {ctx : Context} {st : Store R}
    (valid : ctx.config.validate = .ok ())
    (texts : ∀ entry ∈ st.indices, ∀ doc ∈ entry.2, holdsTexts doc ctx.config.aggregation.authField = true)
    (patient : st.size < ctx.patience) (small : st.size < Number.signedBound) : ctx.Serves st where
  valid := valid
  texts index doc stored := by
    rw [Store.documents] at stored
    split at stored
    next docs found => exact texts _ (List.mem_of_find?_eq_some found) doc stored
    next => cases stored
  patient := patient
  small := small

namespace Sample

/-- A site with one index, of subjects with a resource path and an age. -/
def context (level : AccessLevel) : Context where
  config := {
    backend := { endpoint := "http://search" }
    policy := { endpoint := "http://policy" }
    tier := { level := some level, limit := some 20 }
    indices := [{ index := "subject" }] }
  registry := {
    entries := [("subject", {
      schema := {
        index := "subject"
        contentHash := ""
        fields :=
          [⟨"auth_resource_path", .text, [], false, false⟩, ⟨"age", .numeric, [], false, false⟩] }
      stamp := 0 })] }
  patience := 100

/-- A subject of some age, with a path or without. -/
def subject (path : Option String) (age : Int) : Json Rat :=
  Json.object [("auth_resource_path", path.map .str), ("age", some (.int age))]

/-- A store of subjects. -/
def store (subjects : List (Json Rat)) : Store Rat := ⟨[("subject", subjects)]⟩

/-- A store of a younger and an older subject. -/
def mixed : Store Rat := store [subject (some "/a") 10, subject (some "/b") 30]

/-- What a caller may read of them. -/
def scope (accessible unaccessible : List String) : Scope :=
  ⟨accessible, unaccessible, "auth_resource_path", none⟩

/-- Grants to read one path. -/
def granting (path : String) : Except (List String) GrantTable := .ok [(path, [⟨"guppy", "read"⟩])]

theorem rooted (level : AccessLevel) : (context level).Rooted "subject" := by
  rintro s known
  cases known
  exact ⟨_, rfl, rfl, rfl⟩

theorem serves {level : AccessLevel} (own : level ≠ .granular) {subjects : List (Json Rat)}
    (texts : ∀ doc ∈ subjects, holdsTexts doc "auth_resource_path" = true)
    (few : Json.sizeItems subjects < 100) : (context level).Serves (store subjects) := by
  have size : (store subjects).size = Json.sizeItems subjects := Nat.add_zero _
  refine Context.serves_of_entries ?_ (fun entry h => ?_) (size ▸ few) ?_
  · cases level with
    | granular => exact absurd rfl own
    | _ => rfl
  · cases List.mem_singleton.mp h
    exact texts
  · rw [size, show Number.signedBound = 9223372036854775808 from rfl]
    omega

theorem alias_not_granted (level : AccessLevel) : ∀ a, (context level).missingAlias = some a →
    a ∉ (context level).grantedPaths (granting "/a") := by
  rintro _ ⟨⟩
  cases level <;> decide +kernel

end Sample

end TieredSearch
