import TieredSearch.Proofs.Aggregation.Nothing
import TieredSearch.Proofs.Aggregation.Paging
import TieredSearch.Proofs.Filter.Beside
import TieredSearch.Proofs.Scope.Resolution

/-!
# Scopes that cannot be resolved

A scope cannot be resolved where the policy service gives no grants or the paths of some index cannot
be listed, be it that a search fails or that none of its pages ever comes. `Scope.cause?` is the first
error there is, and the scope that follows from it holds no path and records it
(`Scope.exists_resolve_of_cause`).

Later, on a store, such a scope still asks for the paths out of reach. It finds some exactly where
documents pass the filter (`Scope.exists_outOfScope_of_blind`), and its restrictions, lists of no path,
compile wherever they stand (`Scope.stands_membership`).
-/

namespace TieredSearch

variable {R σ : Type}

/-- The error an operation ends with, if it ends with one. -/
def Outcome.error? {α : Type} (o : Outcome α) : Option QueryError :=
  match o.conclusion? with
  | some (.error e) => some e
  | _ => none

namespace Scope

/-! ### Causes -/

/-- Why a scope cannot be resolved: there are no grants, or some listing ends with an error, of which
the first one counts. -/
def cause? (grants : Except (List String) GrantTable) (listed : List (Outcome (List TermBucket))) :
    Option QueryError :=
  match grants with
  | .error reasons => some (.policyUnavailable reasons)
  | .ok _ => listed.findSome? Outcome.error?

/-- Listings fail with the first error among their ends. -/
theorem listings_eq_error {listed : List (Outcome (List TermBucket))}
    {results : List (Except QueryError (List TermBucket))}
    (same : listed.map Outcome.conclusion? = results.map some) {e : QueryError}
    (first : listed.findSome? Outcome.error? = some e) : listings results = .error e := by
  induction listed generalizing results with
  | nil => cases first
  | cons o listed ih =>
    cases results with
    | nil => cases same
    | cons result results =>
      obtain ⟨ended, others⟩ := List.cons.inj same
      cases result with
      | error e' =>
        have failed : o.error? = some e' := by rw [Outcome.error?, ended]
        rw [List.findSome?_cons, failed] at first
        cases first
        rfl
      | ok buckets =>
        have passed : o.error? = none := by rw [Outcome.error?, ended]
        rw [List.findSome?_cons, passed] at first
        rw [listings, ih others first]
        rfl

variable [Scalar R]

/-- How the listings of the paths end, index by index, when they are asked of a backend. -/
def listingOutcomes (ctx : Context) (serve : Search R → σ → Reply R × σ) (state : σ) :
    List (Outcome (List TermBucket)) :=
  Dialogue.outcomes serve (ctx.config.indexNames.map fun index =>
    (pathsRequest ctx.config.aggregation.authField none none true : TermsRequest R).run ctx index) state

variable {ctx : Context} {serve : Search R → σ → Reply R × σ} {state : σ}
  {grants : Except (List String) GrantTable}

/-- Every listing ends, by its time limit if nothing else. -/
theorem exists_listings (ctx : Context) (serve : Search R → σ → Reply R × σ) (state : σ) :
    ∃ results after,
      (Dialogue.all (ctx.config.indexNames.map fun index =>
        ((pathsRequest ctx.config.aggregation.authField none none true : TermsRequest R).run ctx
          index).settle)).Yields serve state results after ∧
      (listingOutcomes ctx serve state).map Outcome.conclusion? = results.map some := by
  have limited : ∀ d ∈ ctx.config.indexNames.map fun index =>
      (pathsRequest ctx.config.aggregation.authField none none true : TermsRequest R).run ctx index,
      ∀ state, ¬d.Waits serve state := by
    intro d hd state
    obtain ⟨index, -, rfl⟩ := List.mem_map.mp hd
    exact Dialogue.not_waits_bounded _ _ _
  have ends := Dialogue.exists_yields_all_settle limited state
  rwa [List.map_map] at ends

/-- Where there are no grants or some listing has no value, there is a cause. -/
theorem exists_cause (failed : (∃ reasons, grants = .error reasons) ∨
      ∃ o ∈ listingOutcomes ctx serve state, ∀ buckets, o ≠ .value buckets) :
    ∃ cause, cause? grants (listingOutcomes ctx serve state) = some cause := by
  cases grants with
  | error reasons => exact ⟨_, rfl⟩
  | ok table =>
    rcases failed with ⟨reasons, ⟨⟩⟩ | ⟨o, listed, missing⟩
    refine Option.isSome_iff_exists.mp (List.findSome?_isSome_iff.mpr ⟨o, listed, ?_⟩)
    obtain ⟨results, -, -, same⟩ := exists_listings ctx serve state
    obtain ⟨result, -, ended⟩ := List.mem_map.mp (same ▸ List.mem_map_of_mem (f := Outcome.conclusion?) listed)
    rcases o with buckets | e | (_ | fault)
    · exact absurd rfl (missing buckets)
    · rfl
    · cases ended
    · rfl

/-- A scope that cannot be resolved holds no path and records the cause. -/
theorem exists_resolve_of_cause {cause : QueryError}
    (failed : cause? grants (listingOutcomes ctx serve state) = some cause) :
    ∃ after, (resolve ctx grants : Dialogue R Scope).Yields serve state
      (degraded ctx.config.aggregation.authField cause) after := by
  cases grants with
  | error reasons =>
    cases failed
    exact ⟨state, rfl, rfl⟩
  | ok table =>
    obtain ⟨results, after, run, same⟩ := exists_listings ctx serve state
    refine ⟨after, Dialogue.yields_bind.mpr ⟨results, after, run, ?_⟩⟩
    rw [ofListings, listings_eq_error same failed]
    exact ⟨rfl, rfl⟩

/-! ### On a store -/

variable {index : String} {st : Store R} {scope : Scope} {user : Option (Filter R)}
  {excludeField : Option String} {filterSelf : Bool}

theorem outOfScope_onStore (st : Store R) :
    (scope.outOfScope ctx index user excludeField filterSelf).onStore st =
      (((pathsRequest scope.authField user excludeField filterSelf).run ctx index).onStore st).bind fun buckets =>
        .value (outside scope.accessible buckets) := by
  simp only [outOfScope, Dialogue.onStore_bind, Dialogue.onStore_done]

variable {query : Option (Query R)} (texts : ctx.PathsAreTexts index)
  (auth : scope.authField = ctx.config.aggregation.authField)
  (compiled : ctx.compileFilter index user excludeField filterSelf none = .ok query)

include texts auth compiled

/-- Of no documents, no path is out of reach. -/
theorem outOfScope_onStore_of_nothing (nothing : st.selected index query = []) (patient : 0 < ctx.patience) :
    (scope.outOfScope ctx index user excludeField filterSelf).onStore st = .value [] := by
  obtain ⟨plan, planned, rfl⟩ := exists_plan_of_compileFilter texts auth compiled
  rw [outOfScope_onStore, TermsRequest.run_onStore_of_nothing planned nothing patient]
  rfl

/-- Where nothing is accessible, paths are out of reach exactly where documents pass the filter. What the
documents hold as their paths does not matter. -/
theorem exists_outOfScope_of_blind [Scalar.StrictOrder R] (blind : scope.accessible = [])
    (valid : ctx.config.validate = .ok ()) (patient : st.size < ctx.patience)
    (small : st.size < Number.signedBound) :
    ∃ paths, (scope.outOfScope ctx index user excludeField filterSelf).onStore st = .value paths ∧
      (paths.isEmpty = true ↔ st.selected index query = []) := by
  obtain ⟨plan, planned, rfl⟩ := exists_plan_of_compileFilter texts auth compiled
  obtain ⟨buckets, run, bare⟩ := TermsRequest.exists_run_onStore_of_small planned rfl
    (Config.pageSize_pos_of_validate valid) patient small
  refine ⟨outside scope.accessible buckets, ?_, ?_⟩
  · rw [outOfScope_onStore, run]
    rfl
  · rw [← bare, blind]
    simp [outside]

end Scope

/-! ### Restrictions at any depth -/

/-- The restriction to some paths compiles wherever it stands. -/
theorem Scope.stands_membership [Scalar R] {t : Filter.Target} {f : Field} {scope : Scope}
    (found : t.schema.field? scope.authField = some f) (text : f.kind = .text) (paths : List String) :
    Filter.Stands t (scope.membership paths : Filter R) := by
  rw [membership]
  split
  · exact (Filter.Stands.isIn found text _).anyOf (.missing found)
  · exact .isIn found text _

end TieredSearch
