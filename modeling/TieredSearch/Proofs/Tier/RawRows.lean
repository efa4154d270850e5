import TieredSearch.Number.Rational
import TieredSearch.Proofs.Filter.Refusal
import TieredSearch.Proofs.Sorting
import TieredSearch.Proofs.Tier.Decision
import TieredSearch.Tier.Mediation

/-!
# Rows are disclosed as a whole or not at all

Main statement (`rows_whole_or_forbidden`): a regular index forbids rows exactly when more than the
accessible part is asked for and some document that passes the filter is not owned by the caller's
scope; and the rows that a regular or a restricted index does give are taken from documents that
pass the filter and hold an accessible path.
-/

namespace TieredSearch

open Document (valuesAt textsAt holdsTexts)

variable {R : Type} [Scalar R]

/-! ### Rows of a store -/

namespace Store

theorem mem_sortAll {docs : List (Json R)} {clauses : List SortClause} {doc : Json R} :
    doc ∈ sortAll docs clauses ↔ doc ∈ docs := by
  have sorted (clauses : List SortClause) (docs : List (Json R)) :
      doc ∈ clauses.foldl sortBy docs ↔ doc ∈ docs := by
    induction clauses generalizing docs with
    | nil => rfl
    | cons clause clauses ih => rw [List.foldl_cons, ih, sortBy, Sorting.mem_stable]
  exact sorted clauses.reverse docs

/-- The rows of an answer are the documents of the page, less the members that were not asked
for. -/
theorem readRows_answer (st : Store R) (index : String) (query : Option (Query R))
    (page : RowPage) :
    RowRequest.readRows (st.answer ⟨index, query, .rows page⟩) =
      .ok (((sortAll (st.selected index query) (page.sort.getD [])).drop page.offset |>.take page.size).map
        (project page.fields)) := by
  have hits :
      (((st.answer ⟨index, query, .rows page⟩).get? "hits").bind (·.get? "hits")).bind Json.items? =
      some (Store.rows (st.selected index query) page) := rfl
  rw [RowRequest.readRows, hits, Store.rows]
  simp only [List.map_map]
  rfl

end Store

namespace RowRequest

variable {ctx : Context} {index : String} {req : RowRequest R} {st : Store R}

/-- Rows are taken from the documents that pass the filters. -/
theorem mem_of_run_onStore {rows : List (Json R)}
    (h : (req.run ctx index).onStore st = .value rows) :
    ∃ query, ctx.compileFilter index req.filter none true req.scope = .ok query ∧
      ∀ row ∈ rows, ∃ doc ∈ st.selected index query, row = Store.project req.fields doc := by
  rw [run, Dialogue.onStore_bind, Outcome.bind_eq_value_iff] at h
  obtain ⟨s, searched, read⟩ := h
  rw [Dialogue.onStore_ofExcept, Outcome.ofExcept_eq_value_iff] at searched
  obtain ⟨query, compiled, searched⟩ := bind_eq_ok_iff.mp searched
  obtain ⟨sort, -, same⟩ := bind_eq_ok_iff.mp searched
  cases same
  rw [Dialogue.onStore_searchReading, Outcome.ofExcept_eq_value_iff, Store.readRows_answer] at read
  cases read
  refine ⟨query, compiled, fun row hrow => ?_⟩
  obtain ⟨doc, hdoc, rfl⟩ := List.mem_map.mp hrow
  exact ⟨doc, Store.mem_sortAll.mp (List.mem_of_mem_drop (List.mem_of_mem_take hdoc)), rfl⟩

/-- Reading rows forbids nothing. -/
theorem run_onStore_ne_forbidden : (req.run ctx index).onStore st ≠ .failed .forbidden := by
  rw [run, Dialogue.onStore_bind, Dialogue.onStore_ofExcept, search]
  cases compiled : ctx.compileFilter index req.filter none true req.scope with
  | error e =>
    rintro ⟨⟩
    exact ctx.compileFilter_ne_forbidden index _ _ _ _ compiled
  | ok query =>
    cases sorted : ctx.compileSort index req.sort with
    | error e =>
      rintro ⟨⟩
      exact ctx.compileSort_ne_forbidden index _ sorted
    | ok sort =>
      simp only [bind, Except.bind, pure, Except.pure, Outcome.ofExcept_ok, Outcome.value_bind,
        Dialogue.onStore_searchReading, Store.readRows_answer]
      exact fun h => by cases h

end RowRequest

/-! ### Whole or not at all -/

namespace Scope

omit [Scalar R] in
/-- Some document that passes a filter has no path, or one that may not be read. -/
theorem exists_unowned_iff {scope : Scope} {docs : List (Json R)}
    (texts : ∀ doc ∈ docs, holdsTexts doc scope.authField = true) :
    (¬∀ doc ∈ docs, scope.owns doc = true) ↔ ∃ doc ∈ docs,
      textsAt doc scope.authField = [] ∨
        ∃ p ∈ textsAt doc scope.authField, p ∉ scope.accessible := by
  have owned : ∀ doc ∈ docs, (scope.owns doc = true ↔
      textsAt doc scope.authField ≠ [] ∧
        ∀ p ∈ textsAt doc scope.authField, p ∈ scope.accessible) := by
    intro doc hdoc
    rw [owns_iff (texts doc hdoc), Document.valuesAt_eq_map_textsAt (texts doc hdoc), ne_eq,
      List.map_eq_nil_iff]
  rw [forall₂_congr owned]
  push Not
  refine exists_congr fun doc => and_congr_right fun _ => ?_
  rw [or_iff_not_imp_left]

end Scope

namespace Mediation

variable {ctx : Context} {index : String} {st : Store R} {scope : Scope}

/-- A regular index forbids rows exactly when more than the accessible part is asked for and some
matching document has no path or one out of scope. -/
theorem rows_onStore_eq_forbidden_iff (serves : ctx.Serves st) (rooted : ctx.Rooted index)
    (names : scope.NamesPaths ctx) (served : ctx.config.effectiveLevel index = some .regular)
    (req : RowRequest R) (accessibility : Accessibility) :
    ((Mediation.mk ctx scope).rows index req accessibility).onStore st = .failed .forbidden ↔
      accessibility ≠ .accessible ∧
        ∃ query, ctx.compileFilter index req.filter none true none = .ok query ∧
        ∃ doc ∈ st.selected index query, textsAt doc scope.authField = [] ∨
          ∃ p ∈ textsAt doc scope.authField, p ∉ scope.accessible := by
  rw [rows, Dialogue.onStore_bind]
  cases compiled : ctx.compileFilter index req.filter none true none with
  | error e =>
    rw [Decision.make_onStore_of_error rooted names served _ compiled]
    refine iff_of_false ?_ ?_
    · rintro ⟨⟩
      exact ctx.compileFilter_ne_forbidden index _ _ _ _ compiled
    · rintro ⟨-, query, h, -⟩
      cases h
  | ok query =>
    have texts : ∀ doc ∈ st.selected index query, holdsTexts doc scope.authField = true :=
      fun doc h => names.authField ▸ serves.texts index doc (List.mem_of_mem_filter h)
    obtain ⟨paths, made, owned⟩ := Decision.exists_make_onStore serves rooted names served
      ⟨req.filter, none, true, accessibility, true⟩ compiled
    simp only [made, Except.ok.injEq, exists_eq_left', ← Scope.exists_unowned_iff texts, ← owned]
    by_cases within : paths.isEmpty = true
    · obtain ⟨decision, decided⟩ : ∃ decision, Decision.regular ctx scope
          ⟨req.filter, none, true, accessibility, true⟩ paths = .ok decision :=
        Decision.exists_regular_of_isEmpty within
      rw [decided]
      exact iff_of_false RowRequest.run_onStore_ne_forbidden fun h => h.2 within
    · rw [Decision.regular_of_rawData rfl within]
      by_cases asked : accessibility = .accessible
      · rw [if_pos asked]
        exact iff_of_false RowRequest.run_onStore_ne_forbidden fun h => h.1 asked
      · rw [if_neg asked]
        exact iff_of_true rfl ⟨asked, within⟩

/-- A decision under which rows are given lets through, of what passes the filter, only documents
that the scope reaches. -/
theorem reaches_of_decided (serves : ctx.Serves st) (rooted : ctx.Rooted index)
    (names : scope.NamesPaths ctx)
    (served : ctx.config.effectiveLevel index = some .regular ∨ ctx.config.effectiveLevel index = some .restricted)
    {req : TierRequest R} (raw : req.rawData = true) {decision : Decision R}
    (made : (Decision.make ctx scope index req).onStore st = .value decision)
    {own plain query : Option _}
    (unrestricted : ctx.compileFilter index req.filter req.excludeField req.filterSelf none = .ok plain)
    (compiled : ctx.compileFilter index req.filter req.excludeField req.filterSelf
      (Filter.both own decision.scopeFilter) = .ok query)
    {doc : Json R} (passed : doc ∈ st.selected index plain)
    (admitted : Query.admits query doc = true) :
    scope.reaches doc = true := by
  have texts := serves.texts index doc (List.mem_of_mem_filter passed)
  rw [← names.authField] at texts
  have restricted (only : decision = .accessibleOnly scope) : scope.reaches doc = true := by
    subst only
    exact Scope.reaches_of_compileFilter rooted names compiled texts admitted
  rcases served with served | served
  · obtain ⟨paths, made', owned⟩ :=
      Decision.exists_make_onStore serves rooted names served req unrestricted
    have decided := Outcome.ofExcept_eq_value_iff.mp (made'.symm.trans made)
    by_cases within : paths.isEmpty = true
    · -- nothing is out of scope, so the scope owns every matching document
      exact (Bool.and_eq_true _ _ ▸ owned.mp within doc passed).1
    · rw [Decision.regular_of_rawData raw within] at decided
      split at decided
      · cases decided
        exact restricted rfl
      · cases decided
  · obtain ⟨s, known⟩ := Context.exists_schema_of_compileFilter unrestricted
    rw [Decision.make_of_restricted (Decision.level_eq_ok known served)] at made
    cases made
    exact restricted rfl

/-- The rows that a regular or a restricted index gives are taken from matching documents with an
accessible path. -/
theorem exists_of_rows_onStore (serves : ctx.Serves st) (rooted : ctx.Rooted index)
    (names : scope.NamesPaths ctx)
    (served : ctx.config.effectiveLevel index = some .regular ∨ ctx.config.effectiveLevel index = some .restricted)
    {req : RowRequest R} {accessibility : Accessibility} {rows : List (Json R)}
    (h : ((Mediation.mk ctx scope).rows index req accessibility).onStore st = .value rows) :
    ∃ query, ctx.compileFilter index req.filter none true none = .ok query ∧
      ∀ row ∈ rows, ∃ doc ∈ st.selected index query,
        (∃ p ∈ textsAt doc scope.authField, p ∈ scope.accessible) ∧
          row = Store.project req.fields doc := by
  rw [Mediation.rows, Dialogue.onStore_bind, Outcome.bind_eq_value_iff] at h
  obtain ⟨decision, made, run⟩ := h
  obtain ⟨query, compiled, taken⟩ := RowRequest.mem_of_run_onStore run
  obtain ⟨plain, unrestricted⟩ := Context.exists_compileFilter_none compiled
  refine ⟨plain, unrestricted, fun row hrow => ?_⟩
  obtain ⟨doc, hdoc, rfl⟩ := taken row hrow
  obtain ⟨stored, admitted⟩ := List.mem_filter.mp hdoc
  have passed : doc ∈ st.selected index plain :=
    List.mem_filter.mpr ⟨stored, Context.admits_of_compileFilter unrestricted compiled admitted⟩
  have reached :=
    reaches_of_decided serves rooted names served rfl made unrestricted compiled passed admitted
  exact ⟨doc, passed, Scope.reaches_iff.mp reached, rfl⟩

end Mediation

/-- Rows of a regular index are forbidden exactly when more than the accessible part is asked for
and some matching document has no path or one out of scope; every row that a regular or a restricted
index gives is taken from a matching document with an accessible path. -/
theorem rows_whole_or_forbidden {ctx : Context} {index : String} (rooted : ctx.Rooted index)
    {st : Store R} (serves : ctx.Serves st) {grants : Except (List String) GrantTable}
    (free : ∀ a, ctx.missingAlias = some a → a ∉ ctx.grantedPaths grants) {scope : Scope}
    (resolved : (Scope.resolve ctx grants : Dialogue R Scope).onStore st = .value scope)
    (req : RowRequest R) (accessibility : Accessibility) :
    (ctx.config.effectiveLevel index = some .regular →
      (((Mediation.mk ctx scope).rows index req accessibility).onStore st = .failed .forbidden ↔
        accessibility ≠ .accessible ∧
          ∃ query, ctx.compileFilter index req.filter none true none = .ok query ∧
          ∃ doc ∈ st.selected index query, textsAt doc scope.authField = [] ∨
            ∃ p ∈ textsAt doc scope.authField, p ∉ scope.accessible)) ∧
    (ctx.config.effectiveLevel index = some .regular ∨ ctx.config.effectiveLevel index = some .restricted →
      ∀ rows, ((Mediation.mk ctx scope).rows index req accessibility).onStore st = .value rows →
        ∃ query, ctx.compileFilter index req.filter none true none = .ok query ∧
          ∀ row ∈ rows, ∃ doc ∈ st.selected index query,
            (∃ p ∈ textsAt doc scope.authField, p ∈ scope.accessible) ∧
              row = Store.project req.fields doc) := by
  have names := Scope.namesPaths_of_resolve serves free resolved
  constructor
  · intro served
    exact Mediation.rows_onStore_eq_forbidden_iff serves rooted names served req accessibility
  · intro served rows h
    exact Mediation.exists_of_rows_onStore serves rooted names served h

/-- Two subjects, of which one is accessible: asked for all, a regular index forbids their rows, and
a restricted one gives the row of the accessible subject. -/
theorem rows_of_mixed_subjects :
    ((Mediation.mk (Sample.context .regular) (Sample.scope ["/a"] ["/b"])).rows "subject"
      (⟨none, [], .null, 0, none, none⟩ : RowRequest Rat) .all).onStore Sample.mixed =
        .failed .forbidden ∧
    ∃ query, (Sample.context .restricted).compileFilter "subject" (none : Option (Filter Rat)) none
        true none = .ok query ∧
      ∀ row ∈ [Sample.subject (some "/a") 10], ∃ doc ∈ Sample.mixed.selected "subject" query,
        (∃ p ∈ textsAt doc "auth_resource_path", p ∈ ["/a"]) ∧ row = Store.project [] doc := by
  have serves {level : AccessLevel} (own : level ≠ .granular) :
      (Sample.context level).Serves Sample.mixed :=
    Sample.serves own (by decide +kernel) (by decide)
  have resolved (level : AccessLevel) :
      (Scope.resolve (Sample.context level) (Sample.granting "/a") : Dialogue Rat Scope).onStore
        Sample.mixed = .value (Sample.scope ["/a"] ["/b"]) := by
    cases level <;> rfl
  constructor
  · refine ((rows_whole_or_forbidden (Sample.rooted .regular) (serves (by decide))
      (Sample.alias_not_granted .regular) (resolved .regular) _ .all).1 rfl).mpr ?_
    refine ⟨by decide, none, rfl, Sample.subject (some "/b") 30, ?_, .inr ⟨"/b", ?_, by decide⟩⟩
    · exact List.mem_cons_of_mem _ List.mem_cons_self
    · decide +kernel
  · have shown := (rows_whole_or_forbidden (Sample.rooted .restricted) (serves (by decide))
      (Sample.alias_not_granted .restricted) (resolved .restricted)
      ⟨none, [], .null, 0, none, none⟩ .all).2 (.inr rfl)
    exact shown [Sample.subject (some "/a") 10] (by rfl)

end TieredSearch
