import TieredSearch.Proofs.Filter.Exclusion
import TieredSearch.Proofs.Filter.SameElement
import TieredSearch.Proofs.Scope.Membership

/-!
# A scope inside a filter and beside it

The restriction of a scope can be put into a caller's filter, as one more part of a conjunction, or beside it,
where it is compiled apart. Inside a conjunction the parts are compiled within the nested objects they share.
A restriction on a field outside nested objects shares none (`nestedScopes_membership`), so that the filter
keeps the scopes it has by itself, whatever its shape, and the two ways come to the same
(`compile_narrowedBy_agree`).

Main statement (`applied_agrees_with_restriction`): for the accessible documents and for those out of reach
alike, both ways fail for one reason or admit the same documents. Without a path they admit none.
-/

namespace TieredSearch

variable {R : Type} [Scalar R]

namespace Filter

variable {t : Target} {dropped : Option String} {restriction : Filter R}

/-- A restriction outside nested objects, of which nothing is left out, can be put into a filter or beside it. -/
theorem compile_narrowedBy_agree {excludeField : Option String} {filterSelf : Bool}
    (root : nestedScopes t (leftOut excludeField filterSelf) restriction = some [])
    (whole : compileWithin t (leftOut excludeField filterSelf) restriction [] =
      compileWithin t none restriction [])
    (f : Option (Filter R)) :
    Agree (fun inside beside => ∀ doc, Query.admits inside doc = Query.admits beside doc)
      (compile t (some (narrowedBy f restriction)) excludeField filterSelf none)
      (compile t f excludeField filterSelf (some restriction)) := by
  rw [compile_alone, compile_eq, ← leftOut, compileOptional]
  cases f with
  | none =>
    rw [narrowedBy, whole, compileOptional]
    cases compileWithin t none restriction [] with
    | error e => exact .error e
    | ok clause => exact .ok fun doc => by rw [admits_joined, Query.admits_none, Bool.true_and]
  | some f =>
    rw [narrowedBy, compileWithin_allOf_root root, compileEach, compileEach, whole, compileOptional]
    cases compileWithin t (leftOut excludeField filterSelf) f [] with
    | error e => exact .error e
    | ok own =>
      cases compileWithin t none restriction [] with
      | error e => exact .error e
      | ok clause =>
        refine .ok fun doc => ?_
        rw [admits_joined, admits_conjunction]
        simp

end Filter

namespace Scope

open TieredSearch.Filter (leftOut compile compileWithin nestedScopes)

variable {t : Filter.Target} {scope : Scope}

/-! ### The restriction of a scope -/

omit [Scalar R] in
/-- The leaves of a restriction to paths are on the field that holds the paths. -/
theorem without_membership {field : String} (other : scope.authField ≠ field) (paths : List String) :
    (scope.membership paths : Filter R).without field = some (scope.membership paths) := by
  rw [membership]
  split <;> simp [Filter.without, Filter.without.withoutAll, Filter.isIn, other]

/-- Where another field is left out, a restriction to paths is whole. -/
theorem compileWithin_membership {dropped : Option String} (kept : dropped ≠ some scope.authField)
    (paths opened : List String) :
    compileWithin t dropped (scope.membership paths : Filter R) opened =
      compileWithin t none (scope.membership paths) opened := by
  cases dropped with
  | none => rfl
  | some field =>
    have other : scope.authField ≠ field := fun same => kept (congrArg some same.symm)
    rw [Filter.compileWithin_dropped, without_membership other, Option.elim_some]

omit [Scalar R] in
/-- On a field outside nested objects, a restriction to paths shares no nested object with anything. -/
theorem nestedScopes_membership (root : t.schema.nestedPath scope.authField = []) {dropped : Option String}
    (kept : dropped ≠ some scope.authField) (paths : List String) :
    nestedScopes t dropped (scope.membership paths : Filter R) = some [] := by
  rw [membership]
  split
  · rw [nestedScopes, Filter.nestedScopesAll, Filter.isIn, nestedScopes, if_neg kept, root, Filter.sharedScopes_root]
  · rw [Filter.isIn, nestedScopes, if_neg kept, root]

/-- Under a restriction to no path at all, nothing is admitted. -/
theorem not_admits_of_compile_membership_nil {f : Option (Filter R)} {excludeField : Option String}
    {filterSelf : Bool} {q : Option (Query R)}
    (compiled : compile t f excludeField filterSelf (some (scope.membership [])) = .ok q) (doc : Json R) :
    Query.admits q doc = false := by
  obtain ⟨-, clause, -, member, -⟩ := Filter.compile_eq_ok_iff.mp compiled
  obtain ⟨field, found, -⟩ := Filter.exists_text_of_compileWithin_isIn member
  have listed : compile t f excludeField filterSelf (Filter.both none (some (Filter.isIn scope.authField []))) =
      .ok q := compiled
  exact Filter.not_admits_of_compile_isIn_nil found listed doc

/-- A restriction to paths outside nested objects can be put into a filter or beside it. -/
theorem applied_membership_agree (root : t.schema.nestedPath scope.authField = []) (paths : List String)
    (f : Option (Filter R)) {excludeField : Option String} {filterSelf : Bool}
    (kept : leftOut excludeField filterSelf ≠ some scope.authField) :
    Agree (fun inside beside => (∀ doc, Query.admits inside doc = Query.admits beside doc) ∧
        (paths = [] → ∀ doc, Query.admits inside doc = false))
      (compile t (some (Filter.narrowedBy f (scope.membership paths))) excludeField filterSelf none)
      (compile t f excludeField filterSelf (some (scope.membership paths))) := by
  have agree := Filter.compile_narrowedBy_agree (nestedScopes_membership root kept paths)
    (compileWithin_membership kept paths []) f
  have blind := agree.symm.left (p := fun beside => paths = [] → ∀ doc, Query.admits beside doc = false) <| by
    rintro beside compiled rfl doc
    exact not_admits_of_compile_membership_nil compiled doc
  refine blind.symm.mono fun inside beside h => ⟨h.2, fun nothing doc => ?_⟩
  rw [h.2 doc, h.1 nothing doc]

/-- Put into a caller's filter or beside it, the restriction of a scope to what is accessible, and so the one to
what is out of reach, fails for the same reason or admits the same documents, and none where it has no path.
Leaves of the filter may be left out, but not those on the field that holds the paths. -/
theorem applied_agrees_with_restriction (root : t.schema.nestedPath scope.authField = [])
    (f : Option (Filter R)) {excludeField : Option String} {filterSelf : Bool}
    (kept : leftOut excludeField filterSelf ≠ some scope.authField) :
    Agree (fun inside beside => (∀ doc, Query.admits inside doc = Query.admits beside doc) ∧
        (scope.accessible = [] → ∀ doc, Query.admits inside doc = false))
      (compile t (some (scope.applyAccessible f)) excludeField filterSelf none)
      (compile t f excludeField filterSelf (some scope.accessibleMembership)) ∧
    Agree (fun inside beside => (∀ doc, Query.admits inside doc = Query.admits beside doc) ∧
        (scope.unaccessible = [] → ∀ doc, Query.admits inside doc = false))
      (compile t (some (scope.applyUnaccessible f)) excludeField filterSelf none)
      (compile t f excludeField filterSelf (some scope.unaccessibleMembership)) :=
  ⟨applied_membership_agree root scope.accessible f kept, applied_membership_agree root scope.unaccessible f kept⟩

end Scope

/-- Subjects with a resource path, visits and laboratory results. -/
def Sample.ownedVisits : Filter.Target :=
  { Sample.visitTarget with
    schema := { Sample.visitTarget.schema with
      fields := ⟨"auth_resource_path", .text, [], false, false⟩ :: Sample.visitTarget.schema.fields } }

/-- A subject with results at its visits, and a path or none. -/
def Sample.ownedSubject (path : Option String) (visits : List (List Int)) : Json Rat :=
  Json.object [("auth_resource_path", path.map .str),
    ("visits", (Sample.subjectWithResults visits).get? "visits")]

open TieredSearch.Filter in
/-- With the age left out, results between five and seven of subjects out of reach: those with the path, and
those without any. -/
theorem results_out_of_reach_agree : ∃ inside beside : Option (Query Rat),
    compile Sample.ownedVisits (some ((Sample.scope [] ["/b", unownedKey]).applyUnaccessible
      (some Sample.resultFilter))) (some "age") false none = .ok inside ∧
    compile Sample.ownedVisits (some Sample.resultFilter) (some "age") false
      (some (Sample.scope [] ["/b", unownedKey]).unaccessibleMembership) = .ok beside ∧
    (∀ doc, Query.admits inside doc = Query.admits beside doc) ∧
    Query.admits inside (Sample.ownedSubject (some "/b") [[3, 6]]) = true ∧
    Query.admits inside (Sample.ownedSubject none [[3], [6]]) = true ∧
    Query.admits inside (Sample.ownedSubject (some "/b") [[3, 8]]) = false ∧
    Query.admits inside (Sample.ownedSubject (some "/a") [[6]]) = false := by
  obtain ⟨inside, applied, shown⟩ : ∃ inside : Option (Query Rat),
      compile Sample.ownedVisits (some ((Sample.scope [] ["/b", unownedKey]).applyUnaccessible
        (some Sample.resultFilter))) (some "age") false none = .ok inside ∧
      Query.admits inside (Sample.ownedSubject (some "/b") [[3, 6]]) = true ∧
      Query.admits inside (Sample.ownedSubject none [[3], [6]]) = true ∧
      Query.admits inside (Sample.ownedSubject (some "/b") [[3, 8]]) = false ∧
      Query.admits inside (Sample.ownedSubject (some "/a") [[6]]) = false := by
    refine ⟨_, rfl, ?_⟩
    decide +kernel
  have kept : leftOut (some "age") false ≠ some (Sample.scope [] ["/b", unownedKey]).authField := by decide
  have agree := (Scope.applied_agrees_with_restriction (t := Sample.ownedVisits) rfl
    (some Sample.resultFilter) kept).2
  rw [applied] at agree
  generalize hbeside : compile Sample.ownedVisits (some Sample.resultFilter) (some "age") false
    (some (Sample.scope [] ["/b", unownedKey]).unaccessibleMembership) = compiled at agree
  cases agree with
  | ok same => exact ⟨inside, _, applied, rfl, same.1, shown⟩

/-- Left out with the filter's own leaves on the field of the paths, the restriction is gone from inside the
filter. -/
example : Filter.compile Sample.ownedVisits (some ((Sample.scope ["/a"] []).applyAccessible
    (some (.isIn "auth_resource_path" ["/b"]) : Option (Filter Rat)))) (some "auth_resource_path") false none =
    .ok none := rfl

end TieredSearch
