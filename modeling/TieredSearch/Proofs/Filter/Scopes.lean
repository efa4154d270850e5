import TieredSearch.Number.Rational
import TieredSearch.Proofs.Filter.Clauses
import Mathlib.Data.List.Infix

/-!
# The scopes around a test

A combination opens the nested objects that all its leaves lie in, and a leaf opens the ones that are left.
What a combination opens is said by its leaves (`isShared_nestedScopes`): the longest start that the nested
paths of the leaves taking part have in common. So what is open where a leaf is compiled is always a start
of the leaf's own path (`scopesFor_spec`), and the leaf opens the rest.

Main statement (`placed_of_compile`): in a compiled query every test stands inside exactly the nested
objects around its field, the outermost first, and every keyword search outside all nested objects.
-/

namespace TieredSearch

variable {R : Type}

/-! ### Tests inside scopes -/

theorem Query.testsWithin_nestedIn (opened paths : List String) (q : Query R) :
    (nestedIn paths q).testsWithin opened = q.testsWithin (opened ++ paths) := by
  induction paths generalizing opened with
  | nil =>
    rw [List.append_nil]
    rfl
  | cons p ps ih =>
    rw [nestedIn, List.foldr_cons, testsWithin, ← nestedIn, ih, List.append_assoc]
    rfl

theorem Query.mem_testsWithinAll {opened : List String} {qs : List (Query R)}
    {entry : List String × Query R} :
    entry ∈ testsWithinAll opened qs ↔ ∃ q ∈ qs, entry ∈ q.testsWithin opened := by
  induction qs with
  | nil => simp [testsWithinAll]
  | cons q qs ih => rw [testsWithinAll, List.mem_append, ih, List.exists_mem_cons_iff]

/-- A test of a field is the one test of its clause. -/
theorem Query.testsWithin_of_testedField? {test : Query R} {field : String}
    (tested : test.testedField? = some field) (opened : List String) :
    test.testsWithin opened = [(opened, test)] := by
  cases test <;> cases tested <;> rfl

namespace Filter

/-- Every test of a leaf is about its field, inside the scopes that the leaf opens. -/
theorem FieldTest.tests_within {test : FieldTest R} {field : String} (about : test.About field)
    (opened scopes : List String) :
    ∀ entry ∈ (test.within scopes).testsWithin opened,
      entry.1 = opened ++ scopes ∧ entry.2.testedField? = some field := by
  have single {q : Query R} (tested : q.testedField? = some field) :
      ∀ entry ∈ (Query.nestedIn scopes q).testsWithin opened,
        entry.1 = opened ++ scopes ∧ entry.2.testedField? = some field := by
    rw [Query.testsWithin_nestedIn, Query.testsWithin_of_testedField? tested]
    exact List.forall_mem_singleton.mpr ⟨rfl, tested⟩
  cases test with
  | someElement test => exact single about
  | noElement test =>
    rw [within, Query.testsWithin]
    exact single about
  | someOrNoElement test absence =>
    intro entry h
    rw [within, Query.testsWithin, Query.mem_testsWithinAll] at h
    obtain ⟨q, hq, h⟩ := h
    rcases List.mem_pair.mp hq with rfl | rfl
    · exact single about.1 entry h
    · rw [Query.testsWithin] at h
      exact single about.2 entry h

/-! ### The paths of leaves -/

/-- The nested objects around the field of a leaf. A keyword search is outside all of them. -/
def leafPath (s : Schema) (leaf : Filter R) : List String :=
  match leaf.testedField? with
  | some field => s.nestedPath field
  | none => []

/-- The nested objects around each leaf that takes part. -/
def leafPaths (t : Target) (dropped : Option String) (leaves : List (Filter R)) : List (List String) :=
  (leaves.filter (·.contributes dropped)).map (leafPath t.schema)

theorem leafPaths_append (t : Target) (dropped : Option String) (leaves leaves' : List (Filter R)) :
    leafPaths t dropped (leaves ++ leaves') = leafPaths t dropped leaves ++ leafPaths t dropped leaves' := by
  rw [leafPaths, List.filter_append, List.map_append]
  rfl

/-- Two paths begin with another one exactly when what they share does. -/
theorem prefix_sharedStart_iff (opened ps qs : List String) :
    opened <+: sharedStart ps qs ↔ opened <+: ps ∧ opened <+: qs := by
  induction opened generalizing ps qs with
  | nil => simp
  | cons o os ih =>
    match ps, qs with
    | [], _ => simp [sharedStart]
    | _ :: _, [] => simp [sharedStart]
    | p :: ps, q :: qs =>
      rw [sharedStart]
      split
      next same =>
        subst same
        simp only [List.cons_prefix_cons, ih]
        rw [and_and_left]
      next differ =>
        simp only [List.prefix_nil, reduceCtorEq, List.cons_prefix_cons, false_iff]
        exact fun h => differ (h.1.1.symm.trans h.2.1)

/-- `IsShared scopes paths`: the scopes are the longest start that the paths have in common, and there are
none when there is no path. -/
def IsShared (scopes : Option (List String)) (paths : List (List String)) : Prop :=
  match scopes with
  | none => paths = []
  | some shared => paths ≠ [] ∧ ∀ opened, opened <+: shared ↔ ∀ path ∈ paths, opened <+: path

theorem IsShared.append {scopes scopes' : Option (List String)} {paths paths' : List (List String)}
    (h : IsShared scopes paths) (h' : IsShared scopes' paths') :
    IsShared (sharedScopes scopes scopes') (paths ++ paths') := by
  cases scopes with
  | none =>
    cases h
    exact h'
  | some shared =>
    cases scopes' with
    | none =>
      cases h'
      rwa [List.append_nil]
    | some shared' =>
      refine ⟨List.append_ne_nil_of_left_ne_nil h.1 _, fun opened => ?_⟩
      rw [prefix_sharedStart_iff, h.2, h'.2, List.forall_mem_append]

/-- A leaf shares its path with nobody, or takes no part. -/
theorem isShared_leaf {t : Target} {dropped : Option String} {leaf : Filter R}
    {scopes : Option (List String)} (alone : leaf.leaves = [leaf])
    (h : scopes = if leaf.contributes dropped then some (leaf.leafPath t.schema) else none) :
    IsShared scopes (leafPaths t dropped leaf.leaves) := by
  subst h
  rw [alone, leafPaths, List.filter_singleton]
  cases leaf.contributes dropped with
  | false => rfl
  | true => exact ⟨List.cons_ne_nil _ _, fun opened => by simp⟩

mutual

/-- A combination opens what its leaves share. -/
theorem isShared_nestedScopes (t : Target) (dropped : Option String) :
    (f : Filter R) → IsShared (nestedScopes t dropped f) (leafPaths t dropped f.leaves)
  | .allOf children => isShared_nestedScopesAll t dropped children
  | .anyOf children => isShared_nestedScopesAll t dropped children
  | .compare _ field _ => by
    refine isShared_leaf rfl ?_
    by_cases left : dropped = some field <;> simp [nestedScopes, contributes, left, leafPath, testedField?]
  | .missing field => by
    refine isShared_leaf rfl ?_
    by_cases left : dropped = some field <;> simp [nestedScopes, contributes, left, leafPath, testedField?]
  | .search keyword _ => by
    refine isShared_leaf rfl ?_
    cases blank : Text.isBlank keyword <;> simp [nestedScopes, contributes, blank, leafPath, testedField?]

theorem isShared_nestedScopesAll (t : Target) (dropped : Option String) :
    (children : List (Filter R)) →
      IsShared (nestedScopesAll t dropped children) (leafPaths t dropped (leaves.leavesOf children))
  | [] => rfl
  | child :: rest => by
    rw [nestedScopesAll, leaves.leavesOf, leafPaths_append]
    exact (isShared_nestedScopes t dropped child).append (isShared_nestedScopesAll t dropped rest)

end

/-! ### Open scopes -/

/-- What is left of a path behind open scopes that it begins with. -/
theorem append_unopened {opened path : List String} (h : opened <+: path) :
    opened ++ unopened path opened = path :=
  List.prefix_iff_eq_append.mp h

/-- A combination works in what its leaves share, which goes no less deep than what is open. -/
theorem scopesFor_some {opened shared : List String} (h : opened <+: shared) :
    scopesFor (some shared) opened = shared := by
  rw [scopesFor]
  split
  · rfl
  next deep => exact h.eq_of_length_le (Nat.not_lt.mp deep)

/-- From scopes that begin the path of every leaf, a combination goes on to scopes that do. -/
theorem scopesFor_spec {shared : Option (List String)} {paths : List (List String)} {opened : List String}
    (h : IsShared shared paths) (begins : ∀ path ∈ paths, opened <+: path) :
    opened <+: scopesFor shared opened ∧ ∀ path ∈ paths, scopesFor shared opened <+: path := by
  cases shared with
  | none =>
    cases h
    exact ⟨List.prefix_rfl, fun _ hpath => by cases hpath⟩
  | some shared =>
    have deeper : opened <+: shared := (h.2 opened).mpr begins
    rw [scopesFor_some deeper]
    exact ⟨deeper, (h.2 shared).mp List.prefix_rfl⟩

/-- Where a keyword search takes part, no nested object is open. -/
theorem eq_nil_of_search {t : Target} {dropped : Option String} {keyword : String} {fields opened : List String}
    (worded : Text.isBlank keyword = false)
    (begins : ∀ path ∈ leafPaths t dropped (search keyword fields : Filter R).leaves, opened <+: path) :
    opened = [] := by
  refine List.prefix_nil.mp (begins [] ?_)
  simp [leaves, leafPaths, contributes, worded, leafPath, testedField?]

/-! ### Tests in their places -/

/-- `Placed s entry`: a test under nested paths stands where its field does. -/
inductive Placed (s : Schema) : List String × Query R → Prop where
  /-- Inside exactly the nested objects around the field, the outermost first. -/
  | field {name : String} {f : Field} {test : Query R} (tested : test.testedField? = some name)
      (found : s.field? name = some f) : Placed s (f.nestedPath, test)
  /-- A keyword search outside all nested objects. -/
  | search (keyword : String) (fields : List String) : Placed s ([], .multiMatch keyword fields)

variable [Scalar R] {t : Target} {dropped : Option String}

/-- A leaf that takes part is a test of its field, wherever it stands, and the path of the field is among those
of the leaves. -/
theorem exists_test_at_path {leaf : Filter R} {name : String} (tests : leaf.testedField? = some name)
    {opened : List String} {q : Query R} (compiled : compileWithin t dropped leaf opened = .ok (some q)) :
    ∃ (f : Field) (test : FieldTest R), t.schema.field? name = some f ∧ test.About f.name ∧
      f.nestedPath ∈ leafPaths t dropped leaf.leaves ∧
      (∀ opened, compileWithin t dropped leaf opened =
        .ok (some (test.within (unopened f.nestedPath opened)))) ∧
      ∀ doc, (test.within []).selects doc = leaf.holds t dropped doc := by
  obtain ⟨f, test, found, about, shape, means⟩ := exists_test_of_compileWithin tests compiled
  have part : leaf.contributes dropped = true := (isSome_of_compileWithin leaf compiled).symm
  refine ⟨f, test, found, about, ?_, shape, means⟩
  rw [leaves_of_testedField? tests, leafPaths]
  simp [part, leafPath, tests, Schema.nestedPath, found]

/-- A leaf opens what is left of its field's path. -/
theorem placed_of_leaf {leaf : Filter R} {name : String} (tests : leaf.testedField? = some name)
    {opened : List String} (begins : ∀ path ∈ leafPaths t dropped leaf.leaves, opened <+: path) {q : Query R}
    (compiled : compileWithin t dropped leaf opened = .ok (some q)) :
    ∀ entry ∈ q.testsWithin opened, Placed t.schema entry := by
  obtain ⟨f, test, found, about, path, shape, -⟩ := exists_test_at_path tests compiled
  cases compiled.symm.trans (shape opened)
  rintro ⟨paths, test⟩ h
  obtain ⟨rfl, tested⟩ := FieldTest.tests_within about opened _ _ h
  rw [append_unopened (begins _ path)]
  exact .field tested (Schema.name_of_field? found ▸ found)

mutual

/-- From scopes that begin the path of every leaf, a filter compiles to tests in their places. -/
theorem placed_of_compileWithin : (f : Filter R) → {opened : List String} →
    (∀ path ∈ leafPaths t dropped f.leaves, opened <+: path) → {q : Query R} →
    compileWithin t dropped f opened = .ok (some q) →
      ∀ entry ∈ q.testsWithin opened, Placed t.schema entry
  | .allOf children, opened, begins, q, compiled => by
    obtain ⟨clauses, each, grouped⟩ := compileWithin_allOf_eq_ok_iff.mp compiled
    obtain ⟨-, rfl⟩ := group_eq_some_iff.mp grouped
    -- what the combination opens begins the paths of its leaves as well
    obtain ⟨deeper, within⟩ := scopesFor_spec (isShared_nestedScopesAll t dropped children) begins
    rw [Query.testsWithin_nestedIn, append_unopened deeper, Query.testsWithin]
    exact placed_of_compileEach children within each
  | .anyOf children, opened, begins, q, compiled => by
    obtain ⟨clauses, each, grouped⟩ := compileWithin_anyOf_eq_ok_iff.mp compiled
    obtain ⟨-, rfl⟩ := group_eq_some_iff.mp grouped
    obtain ⟨deeper, within⟩ := scopesFor_spec (isShared_nestedScopesAll t dropped children) begins
    rw [Query.testsWithin_nestedIn, append_unopened deeper, Query.testsWithin]
    exact placed_of_compileEach children within each
  | .compare _ _ _, _, begins, _, compiled => placed_of_leaf rfl begins compiled
  | .missing _, _, begins, _, compiled => placed_of_leaf rfl begins compiled
  | .search keyword fields, opened, begins, q, compiled => by
    obtain ⟨worded, analyzed, rfl, -⟩ := exists_multiMatch_of_compileWithin compiled
    cases eq_nil_of_search worded begins
    exact List.forall_mem_singleton.mpr (.search keyword analyzed)

/-- The same of several filters under the same scopes. -/
theorem placed_of_compileEach : (children : List (Filter R)) → {opened : List String} →
    (∀ path ∈ leafPaths t dropped (leaves.leavesOf children), opened <+: path) → {clauses : List (Query R)} →
    compileEach t dropped children opened = .ok clauses →
      ∀ entry ∈ Query.testsWithinAll opened clauses, Placed t.schema entry
  | [], _, _, _, compiled => by
    cases compiled
    exact fun _ h => by cases h
  | child :: rest, opened, begins, clauses, compiled => by
    rw [leaves.leavesOf, leafPaths_append, List.forall_mem_append] at begins
    obtain ⟨clause, first, others, further, rfl⟩ := compileEach_cons_eq_ok_iff.mp compiled
    intro entry h
    obtain ⟨q, hq, h⟩ := Query.mem_testsWithinAll.mp h
    rcases List.mem_append.mp hq with hq | hq
    · rw [Option.mem_toList.mp hq] at first
      exact placed_of_compileWithin child begins.1 first entry h
    · exact placed_of_compileEach rest begins.2 further entry (Query.mem_testsWithinAll.mpr ⟨q, hq, h⟩)

end

omit [Scalar R] in
/-- Outside all nested objects, every path begins with what is open. -/
theorem nil_begins (paths : List (List String)) : ∀ path ∈ paths, [] <+: path :=
  fun _ _ => List.nil_prefix

theorem placed_of_compileOptional {f : Option (Filter R)} {q : Query R}
    (compiled : compileOptional t dropped f = .ok (some q)) :
    ∀ entry ∈ q.testsWithin [], Placed t.schema entry := by
  cases f with
  | none => cases compiled
  | some f => exact placed_of_compileWithin f (nil_begins _) compiled

/-- In a compiled filter, beside a restriction or not, every test of a field stands inside exactly the
nested objects around the field, the outermost first, and every keyword search outside all nested objects. -/
theorem placed_of_compile {user extra : Option (Filter R)} {excludeField : Option String} {filterSelf : Bool}
    {q : Query R} (compiled : compile t user excludeField filterSelf extra = .ok (some q)) :
    ∀ entry ∈ q.testsWithin [], Placed t.schema entry := by
  obtain ⟨own, scope, hown, hscope, both⟩ := compile_eq_ok_iff.mp compiled
  cases own with
  | none =>
    cases both
    exact placed_of_compileOptional hscope
  | some own =>
    cases scope with
    | none =>
      cases both
      exact placed_of_compileOptional hown
    | some scope =>
      cases both
      intro entry h
      rw [Query.testsWithin, Query.mem_testsWithinAll] at h
      obtain ⟨q, hq, h⟩ := h
      rcases List.mem_pair.mp hq with rfl | rfl
      · exact placed_of_compileOptional hown entry h
      · exact placed_of_compileOptional hscope entry h

end Filter

/-- Subjects with visits, and at each visit laboratory results. -/
def Sample.visitTarget : Filter.Target where
  schema := {
    index := "subject"
    contentHash := ""
    fields :=
      [⟨"gender", .text, [], false, true⟩, ⟨"age", .numeric, [], false, false⟩,
        ⟨"visits.visit_label", .text, ["visits"], false, false⟩,
        ⟨"visits.labs.result", .numeric, ["visits", "visits.labs"], false, false⟩] }
  missingAlias := some "no data"
  analyzedSuffix := "analyzed"

/-- A label and results of one visit, or a keyword, or an age. -/
def Sample.visitFilter : Filter Rat :=
  .anyOf [
    .allOf [.equals "visits.visit_label" "a",
      .anyOf [.compare (.range .gte) "visits.labs.result" (.int 5), .missing "visits.labs.result"]],
    .search "male" [],
    .compare .eq "age" (.int 30)]

open TieredSearch.Filter in
/-- The label and the results are asked of one visit, and the filter on the age is left out. -/
theorem placed_of_visit_filter : ∃ q : Query Rat,
    compile Sample.visitTarget (some Sample.visitFilter) (some "age") false (some (isIn "gender" ["male", "no data"])) =
      .ok (some q) ∧
    (q.testsWithin []).map (·.1) =
      [["visits"], ["visits", "visits.labs"], ["visits", "visits.labs"], [], [], []] ∧
    ∀ entry ∈ q.testsWithin [], Placed Sample.visitTarget.schema entry := by
  have compiled : ∃ q, compile Sample.visitTarget (some Sample.visitFilter) (some "age") false
      (some (isIn "gender" ["male", "no data"])) = .ok (some q) ∧ (q.testsWithin []).map (·.1) =
        [["visits"], ["visits", "visits.labs"], ["visits", "visits.labs"], [], [], []] := ⟨_, rfl, rfl⟩
  obtain ⟨q, compiled, paths⟩ := compiled
  exact ⟨q, compiled, paths, placed_of_compile compiled⟩

end TieredSearch
