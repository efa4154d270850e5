import TieredSearch.Proofs.Aggregation.Grouping
import TieredSearch.Proofs.Scope.Membership

/-!
# The paths of a scope

A scope is resolved once and kept, while documents come and go; each restricted query lists the paths it touches
anew. `Scope.Splits` says which sets the scope has to hold: the paths that the grants open to the configured service,
and those stored in some index that they do not. `Scope.ListsOutside` says what a fresh listing has to be: the paths
of the documents that pass a filter, without those that are accessible, each once and the reserved key last.

`scope_names_stored_paths` is the theorem: both hold for any grants, any order of the indices and of the documents,
and any page size. The configuration need not be accepted; that the paths can be listed (`Context.ListsFrom`) is
enough.
-/

namespace TieredSearch

open Document (valuesAt textsAt holdsTexts)

variable {R : Type}

/-! ### What the sets should be -/

/-- Grants open a path to the service of a site: the path is not the reserved key, and one of its grants allows
reading, or everything, through that service, or any. -/
def Context.Opens (ctx : Context) (table : GrantTable) (path : String) : Prop :=
  path ≠ unownedKey ∧ ∃ grants, (path, grants) ∈ table ∧ ∃ g ∈ grants,
    (g.method = "read" ∨ g.method = "*") ∧ (g.service = ctx.config.policy.service ∨ g.service = "*")

namespace Scope

/-- A scope that splits the stored paths as the grants say. -/
structure Splits (scope : Scope) (ctx : Context) (table : GrantTable) (st : Store R) : Prop where
  /-- The scope is not degraded. -/
  whole : scope.isDegraded = false
  /-- The field is the configured one. -/
  authField : scope.authField = ctx.config.aggregation.authField
  /-- Accessible are the paths that are opened, stored or not. -/
  mem_accessible_iff : ∀ p, p ∈ scope.accessible ↔ ctx.Opens table p
  /-- Out of reach are the stored paths that are not opened, and the reserved key where a document has no path. -/
  mem_unaccessible_iff : ∀ p, p ∈ scope.unaccessible ↔
    (∃ index ∈ ctx.config.indexNames, ctx.Names st index p) ∧ ¬ctx.Opens table p
  /-- No path is in both sets. -/
  disjoint : ∀ p ∈ scope.accessible, p ∉ scope.unaccessible
  /-- The reserved key is not accessible. -/
  reserved : unownedKey ∉ scope.accessible
  /-- Both sets are listed in ascending order, each path once. -/
  ascending : scope.accessible.Pairwise (· < ·) ∧ scope.unaccessible.Pairwise (· < ·)

/-- The paths of documents that are not accessible. -/
structure ListsOutside (scope : Scope) (docs : List (Json R)) (paths : List String) : Prop where
  /-- No path is listed twice. -/
  once : paths.Nodup
  /-- Listed are the paths of the documents, and the reserved key where one has none. -/
  mem_iff : ∀ p, p ∈ paths ↔ p ∉ scope.accessible ∧
    ((∃ doc ∈ docs, p ∈ textsAt doc scope.authField) ∨
      p = unownedKey ∧ ∃ doc ∈ docs, valuesAt doc scope.authField = [])
  /-- The reserved key comes last. -/
  last : unownedKey ∈ paths → paths.getLast? = some unownedKey

/-! ### Grants -/

theorem mem_readablePaths_iff {ctx : Context} {table : GrantTable} {p : String} :
    p ∈ readablePaths ctx table ↔ ctx.Opens table p := by
  have allows (g : Grant) : g.allowsRead ctx.config.policy.service = true ↔
      (g.method = "read" ∨ g.method = "*") ∧ (g.service = ctx.config.policy.service ∨ g.service = "*") := by
    simp only [Grant.allowsRead, Bool.and_eq_true, Bool.or_eq_true, decide_eq_true_eq]
  rw [readablePaths, List.mem_filter, decide_eq_true_eq, and_comm, Context.Opens, GrantTable.readable,
    Sorting.mem_ascending]
  refine and_congr_right fun _ => ?_
  simp only [List.mem_map, List.mem_filter, List.any_eq_true, allows, Prod.exists, exists_and_right,
    exists_eq_right]

theorem pairwise_readablePaths (ctx : Context) (table : GrantTable) :
    (readablePaths ctx table).Pairwise (· < ·) :=
  (Sorting.pairwise_ascending _).sublist List.filter_sublist

/-! ### Resolving and listing -/

variable [Scalar R] {ctx : Context} {st : Store R}

/-- Where every index lists its paths, the scope that is resolved splits them. -/
theorem exists_splits (lists : ctx.ListsFrom st)
    (loaded : ∀ index ∈ ctx.config.indexNames, ctx.listsPaths index = true) (table : GrantTable) :
    ∃ scope, (resolve ctx (.ok table) : Dialogue R Scope).onStore st = .value scope ∧
      scope.Splits ctx table st := by
  obtain ⟨results, run, listed⟩ := exists_all_onStore lists ctx.config.indexNames
  rw [List.all_eq_true.mpr loaded] at listed
  obtain ⟨buckets, together⟩ : ∃ buckets, listings results = .ok buckets := by
    cases together : listings results with
    | ok buckets => exact ⟨buckets, rfl⟩
    | error e =>
      rw [together] at listed
      cases listed
  have resolved : (resolve ctx (.ok table) : Dialogue R Scope).onStore st = .value {
      accessible := readablePaths ctx table
      unaccessible := Sorting.ascending (outside (readablePaths ctx table) buckets)
      authField := ctx.config.aggregation.authField
      degradation := none } := by
    rw [resolve, Dialogue.onStore_bind, run, Outcome.value_bind, Dialogue.onStore_done, ofListings, together]
  have unaccessible (p : String) : p ∈ Sorting.ascending (outside (readablePaths ctx table) buckets) ↔
      (∃ index ∈ ctx.config.indexNames, ctx.Names st index p) ∧ ¬ctx.Opens table p := by
    rw [Sorting.mem_ascending, outside, List.mem_filter, mem_keys_of_listings lists run together,
      ← mem_readablePaths_iff]
    simp
  refine ⟨_, resolved, rfl, rfl, ?_, unaccessible, ?_, ?_, ?_⟩
  · intro p
    exact mem_readablePaths_iff
  · intro p granted beyond
    exact ((unaccessible p).mp beyond).2 (mem_readablePaths_iff.mp granted)
  · intro granted
    exact (mem_readablePaths_iff.mp granted).1 rfl
  · exact ⟨pairwise_readablePaths ctx table, Sorting.pairwise_ascending _⟩

/-- Whatever scope was resolved before, a listing of a store names the paths outside of it. -/
theorem exists_listsOutside {scope : Scope} (auth : scope.authField = ctx.config.aggregation.authField)
    (reserved : unownedKey ∉ scope.accessible) (lists : ctx.ListsFrom st) {index : String}
    (loaded : ctx.listsPaths index = true) {user : Option (Filter R)} {excludeField : Option String}
    {filterSelf : Bool} {query : Option (Query R)}
    (compiled : ctx.compileFilter index user excludeField filterSelf none = .ok query) :
    ∃ paths, (scope.outOfScope ctx index user excludeField filterSelf).onStore st = .value paths ∧
      scope.ListsOutside (st.selected index query) paths := by
  obtain ⟨s, known⟩ := Context.exists_schema_of_compileFilter compiled
  obtain ⟨f, found⟩ : ∃ f, s.field? scope.authField = some f := by
    rw [Context.listsPaths, known, ← auth] at loaded
    exact Option.isSome_iff_exists.mp loaded
  have planned : (pathsRequest scope.authField user excludeField filterSelf : TermsRequest R).plan ctx index =
      .ok ⟨index, f, query, ctx.config.aggregation.pageSize, some unownedKey⟩ :=
    TermsRequest.plan_eq_ok_iff.mpr ⟨s, f, query, known, found, compiled, rfl⟩
  have texts : ∀ doc ∈ st.selected index query, holdsTexts doc scope.authField = true := by
    intro doc h
    rw [auth]
    exact lists.texts index doc (List.mem_of_mem_filter h)
  obtain ⟨buckets, run, named⟩ :=
    TermsRequest.exists_run_onStore planned rfl texts lists.paged lists.patient lists.small
  have answer := TermsRequest.buckets_of_run_onStore planned texts lists.paged lists.small run
  obtain ⟨held, once, apart, order⟩ := TermTally.exists_keys_sorted_add texts unownedKey
  rw [pathsRequest] at answer
  rw [← answer] at order
  refine ⟨outside scope.accessible buckets, ?_, ?_, ?_, ?_⟩
  · rw [outOfScope, Dialogue.onStore_bind, run, Outcome.value_bind, Dialogue.onStore_done]
  · have all : (buckets.map (·.key)).Nodup := by
      rcases order with same | same
      · rw [same]
        exact once
      · rw [same]
        exact once.append (List.nodup_singleton _) (List.disjoint_singleton.mpr apart)
    exact all.filter _
  · intro p
    rw [outside, List.mem_filter, named, and_comm]
    simp [pathsRequest, and_comm]
  · intro member
    have kept : unownedKey ∈ buckets.map (·.key) := List.mem_of_mem_filter member
    rcases order with same | same
    · exact absurd (same ▸ kept) apart
    · have stays : (!scope.accessible.contains unownedKey) = true := by simpa using reserved
      rw [outside, same, List.filter_append, List.filter_singleton, stays]
      exact List.getLast?_concat

end Scope

/-- From any grants and any store whose paths can be listed, the scope that is resolved splits the stored paths as
the grants say. A listing under any filter, of that store or of another one later on, then names the paths of the
documents that pass the filter and are not accessible. -/
theorem scope_names_stored_paths [Scalar R] {ctx : Context} {st : Store R} (lists : ctx.ListsFrom st)
    (loaded : ∀ index ∈ ctx.config.indexNames, ctx.listsPaths index = true) (table : GrantTable) :
    ∃ scope, (Scope.resolve ctx (.ok table) : Dialogue R Scope).onStore st = .value scope ∧
      scope.Splits ctx table st ∧
      ∀ later : Store R, ctx.ListsFrom later → ∀ index user excludeField filterSelf query,
        ctx.compileFilter index user excludeField filterSelf none = .ok query →
        ∃ paths, (scope.outOfScope ctx index user excludeField filterSelf).onStore later = .value paths ∧
          scope.ListsOutside (later.selected index query) paths := by
  obtain ⟨scope, resolved, splits⟩ := Scope.exists_splits lists loaded table
  refine ⟨scope, resolved, splits, ?_⟩
  intro later listsLater index user excludeField filterSelf query compiled
  obtain ⟨s, known⟩ := Context.exists_schema_of_compileFilter compiled
  exact Scope.exists_listsOutside splits.authField splits.reserved listsLater
    (loaded index (Context.mem_indexNames_of_schema known)) compiled

/-- The family later on: the child and a subject are gone, and one with a new path has come. -/
def Sample.familyLater : Store Rat :=
  store [subject none 20, subject (some "/a") 10, subject (some "/c") 30]

/-- One path is granted; another one and the subject without a path are out of reach. A listing of those of ten years
and older, later on, names the new path and then the reserved key. -/
theorem family_paths_named :
    ∃ scope, (Scope.resolve (Sample.context .regular) (Sample.granting "/a") : Dialogue Rat Scope).onStore
        Sample.family = .value scope ∧
      "/a" ∈ scope.accessible ∧ "/b" ∈ scope.unaccessible ∧ unownedKey ∈ scope.unaccessible ∧
      ∃ paths, (scope.outOfScope (Sample.context .regular) "subject" Sample.pathListing.filter none true).onStore
          Sample.familyLater = .value paths ∧
        "/a" ∉ paths ∧ "/c" ∈ paths ∧ paths.getLast? = some unownedKey := by
  have before : (Sample.context .regular).ListsFrom Sample.family :=
    (Sample.serves (by decide) (by decide +kernel) (by decide +kernel)).listsFrom
  have after : (Sample.context .regular).ListsFrom Sample.familyLater :=
    (Sample.serves (by decide) (by decide +kernel) (by decide +kernel)).listsFrom
  obtain ⟨scope, resolved, splits, listing⟩ :=
    scope_names_stored_paths before (by decide) [("/a", [⟨"guppy", "read"⟩])]
  obtain ⟨paths, listed, outside⟩ := listing _ after "subject" Sample.pathListing.filter none true _ rfl
  have readable : Scope.readablePaths (Sample.context .regular) [("/a", [⟨"guppy", "read"⟩])] = ["/a"] := by
    decide +kernel
  have opened (p : String) : (Sample.context .regular).Opens [("/a", [⟨"guppy", "read"⟩])] p ↔ p = "/a" := by
    rw [← Scope.mem_readablePaths_iff, readable, List.mem_singleton]
  have granted (p : String) : p ∈ scope.accessible ↔ p = "/a" := (splits.mem_accessible_iff p).trans (opened p)
  have auth : scope.authField = "auth_resource_path" := splits.authField
  refine ⟨scope, resolved, (granted _).mpr rfl, ?_, ?_, paths, listed, ?_, ?_, ?_⟩
  · refine (splits.mem_unaccessible_iff _).mpr ⟨⟨"subject", by decide, .inl ?_⟩, fun h => ?_⟩
    · decide +kernel
    · exact absurd ((opened _).mp h) (by decide)
  · refine (splits.mem_unaccessible_iff _).mpr ⟨⟨"subject", by decide, .inr ⟨?_, rfl⟩⟩, fun h => h.1 rfl⟩
    decide +kernel
  · exact fun member => ((outside.mem_iff _).mp member).1 ((granted _).mpr rfl)
  · refine (outside.mem_iff _).mpr ⟨fun h => absurd ((granted _).mp h) (by decide), .inl ?_⟩
    rw [auth]
    decide +kernel
  · refine outside.last ((outside.mem_iff _).mpr ⟨splits.reserved, .inr ⟨rfl, ?_⟩⟩)
    rw [auth]
    decide +kernel

end TieredSearch
