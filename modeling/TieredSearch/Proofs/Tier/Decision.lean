import TieredSearch.Proofs.Scope.Resolution
import TieredSearch.Proofs.Search.Run
import TieredSearch.Tier.Decision

/-!
# Decisions on a store

How a request is decided on once the level of its index is known. On a regular index the listing of
the paths out of scope decides, and by `Decision.exists_make_onStore` what it says is whether the
scope owns every document that passes the caller's filter.
-/

namespace TieredSearch

/-- Whether an index shows the accessible view: a restricted one always does, a regular one when it
is asked for it. -/
def Context.ShowsAccessible (ctx : Context) (index : String) (accessibility : Accessibility) :
    Prop :=
  ctx.config.effectiveLevel index = some .restricted ∨
    ctx.config.effectiveLevel index = some .regular ∧ accessibility = .accessible

/-- Where the records of an index are marked as sensitive, the mark is a text field of its schema. -/
def Context.MarksTexts (ctx : Context) (index : String) : Prop :=
  ∀ name s, ctx.config.tier.sensitiveField = some name → ctx.schema index = .ok s →
    ∃ f, s.field? name = some f ∧ f.kind = .text

namespace Decision

variable {R : Type} [Scalar R] {ctx : Context} {index : String} {scope : Scope}
    {req : TierRequest R}

/-- The restriction of a decision, and that of the shadow if there is one. -/
def restrictions (decision : Decision R) : List (Option (Filter R)) :=
  decision.scopeFilter :: decision.shadowFilter.toList.map some

/-! ### By level -/

omit [Scalar R] in
theorem level_eq_ok {s : Schema} {l : AccessLevel} (known : ctx.schema index = .ok s)
    (served : ctx.config.effectiveLevel index = some l) : level ctx index = .ok l := by
  rw [level, known, served]
  rfl

omit [Scalar R] in
theorem level_eq_error {e : QueryError} (unknown : ctx.schema index = .error e) :
    level ctx index = .error e := by
  rw [level, unknown]
  rfl

theorem make_of_restricted (restricted : level ctx index = .ok .restricted) :
    make ctx scope index req = .done (.value (accessibleOnly scope)) := by
  rw [make, restricted]
  rfl

theorem make_of_regular (tiered : level ctx index = .ok .regular) :
    make ctx scope index req =
      (scope.outOfScope ctx index req.filter req.excludeField req.filterSelf).bind fun paths =>
        Dialogue.ofExcept (regular ctx scope req paths) := by
  rw [make, tiered]
  rfl

/-! ### On a regular index -/

variable {paths : List String}

omit [Scalar R] in
/-- Asked for the accessible part, a regular index restricts a request unless there is nothing
else. -/
theorem regular_of_accessible (asked : req.accessibility = .accessible) :
    regular ctx scope req paths =
      .ok (if paths.isEmpty then passThrough else accessibleOnly scope) := by
  unfold regular
  cases paths.isEmpty <;> cases req.rawData <;> cases scope.isDegraded <;> simp [asked]

omit [Scalar R] in
/-- Where nothing is out of scope, nothing is forbidden. -/
theorem exists_regular_of_isEmpty (within : paths.isEmpty = true) :
    ∃ decision, regular ctx scope req paths = .ok decision := by
  rw [regular, if_pos within]
  cases req.accessibility <;> exact ⟨_, rfl⟩

omit [Scalar R] in
/-- Where something is out of scope, only the accessible rows are given. -/
theorem regular_of_rawData (raw : req.rawData = true) (beyond : ¬paths.isEmpty = true) :
    regular ctx scope req paths =
      if req.accessibility = .accessible then .ok (accessibleOnly scope) else .error .forbidden := by
  rw [regular, if_neg beyond, if_pos raw]
  cases req.accessibility <;> rfl

omit [Scalar R] in
/-- For a scope that could not be resolved, what is out of scope restricts a request. -/
theorem regular_of_isDegraded (degraded : scope.isDegraded = true) (counts : req.rawData = false)
    (beyond : ¬paths.isEmpty = true) : regular ctx scope req paths = .ok (accessibleOnly scope) := by
  rw [regular, if_neg beyond, counts, if_neg Bool.false_ne_true, if_pos degraded]

section Suppressing

variable (counts : req.rawData = false) (settled : paths.isEmpty = true ∨ scope.isDegraded = false)

include counts settled

omit [Scalar R] in
/-- Asked for all of it, a regular index suppresses counts otherwise. -/
theorem regular_of_all (asked : req.accessibility = .all) :
    regular ctx scope req paths = .ok (allWithRedaction ctx scope) := by
  unfold regular
  cases within : paths.isEmpty <;> simp_all

omit [Scalar R] in
/-- Asked for what is out of reach, it shows that, and suppresses counts. -/
theorem regular_of_unaccessible (asked : req.accessibility = .unaccessible) :
    regular ctx scope req paths = .ok (unaccessibleOnly ctx scope) := by
  unfold regular
  cases within : paths.isEmpty <;> simp_all

end Suppressing

omit [Scalar R] in
/-- Asked for more than the accessible part, a regular index suppresses counts by one of two
decisions. -/
theorem exists_suppressing (ctx : Context) {accessibility : Accessibility}
    (beyond : accessibility ≠ .accessible) :
    ∃ decide : Scope → Decision R,
      (decide = allWithRedaction ctx ∨ decide = unaccessibleOnly ctx) ∧
      ∀ scope req paths, req.accessibility = accessibility → req.rawData = false →
        paths.isEmpty = true ∨ scope.isDegraded = false →
          regular ctx scope req paths = .ok (decide scope) := by
  cases accessibility with
  | accessible => exact absurd rfl beyond
  | all => exact ⟨_, .inl rfl, fun _ _ _ asked counts settled => regular_of_all counts settled asked⟩
  | unaccessible =>
    exact ⟨_, .inr rfl, fun _ _ _ asked counts settled => regular_of_unaccessible counts settled asked⟩

variable {st : Store R}

/-- Where all of a regular index is asked for, the decision to suppress counts follows a listing of the
paths out of scope, whatever that says. -/
theorem exists_listing_of_yields {σ : Type} {serve : Search R → σ → Reply R × σ} {state after : σ}
    (served : ctx.config.effectiveLevel index = some .regular) (asked : req.accessibility = .all)
    (counts : req.rawData = false) (whole : scope.isDegraded = false) {decision : Decision R}
    (made : (make ctx scope index req).Yields serve state decision after) :
    ∃ paths, (scope.outOfScope ctx index req.filter req.excludeField req.filterSelf).Yields serve
      state paths after ∧ decision = .allWithRedaction ctx scope := by
  cases known : ctx.schema index with
  | error e =>
    rw [make, level_eq_error known] at made
    cases made.1
  | ok s =>
    rw [make_of_regular (level_eq_ok known served)] at made
    obtain ⟨paths, between, listing, made⟩ := Dialogue.yields_bind.mp made
    rw [regular_of_all counts (.inr whole) asked] at made
    cases made.1
    cases made.2
    exact ⟨paths, listing, rfl⟩

/-- Whether the scope owns what passes the caller's filter decides on a regular index. -/
theorem exists_make_onStore (serves : ctx.Serves st) (rooted : ctx.Rooted index)
    (names : scope.NamesPaths ctx)
    (served : ctx.config.effectiveLevel index = some .regular) (req : TierRequest R)
    {query : Option (Query R)}
    (compiled : ctx.compileFilter index req.filter req.excludeField req.filterSelf none = .ok query) :
    ∃ paths, (make ctx scope index req).onStore st = .ofExcept (regular ctx scope req paths) ∧
      (paths.isEmpty = true ↔ ∀ doc ∈ st.selected index query, scope.owns doc = true) := by
  obtain ⟨s, known⟩ := Context.exists_schema_of_compileFilter compiled
  obtain ⟨paths, listed, owned⟩ := Scope.exists_outOfScope_onStore serves rooted names compiled
  refine ⟨paths, ?_, owned⟩
  rw [make_of_regular (level_eq_ok known served), Dialogue.onStore_bind, listed, Outcome.value_bind,
    Dialogue.onStore_ofExcept]

/-- A request whose filter does not compile is not decided on. -/
theorem make_onStore_of_refused (texts : ctx.PathsAreTexts index)
    (auth : scope.authField = ctx.config.aggregation.authField)
    (served : ctx.config.effectiveLevel index = some .regular) (req : TierRequest R) {e : QueryError}
    (refused : ctx.compileFilter index req.filter req.excludeField req.filterSelf none = .error e)
    (st : Store R) : (make ctx scope index req).onStore st = .failed e := by
  cases known : ctx.schema index with
  | error e' =>
    rw [Context.compileFilter, Context.target, known] at refused
    cases refused
    rw [make, level_eq_error known]
    rfl
  | ok s =>
    rw [make_of_regular (level_eq_ok known served), Dialogue.onStore_bind,
      Scope.outOfScope_onStore_of_error texts auth refused, Outcome.failed_bind]

theorem make_onStore_of_error (rooted : ctx.Rooted index) (names : scope.NamesPaths ctx)
    (served : ctx.config.effectiveLevel index = some .regular) (req : TierRequest R)
    {e : QueryError}
    (refused : ctx.compileFilter index req.filter req.excludeField req.filterSelf none = .error e) :
    (make ctx scope index req).onStore st = .failed e :=
  make_onStore_of_refused rooted.pathsAreTexts names.authField served req refused st

end Decision

end TieredSearch
