import TieredSearch.Proofs.Filter.Scopes

/-!
# What a compiled filter selects

A leaf compiled where the nested objects around its field are open already tests the fields it sees, without
opening anything. So a filter whose leaves all lie at one path means, inside that path, what its tree says:
no combination of it opens a nested object either (`scopesFor_of_uniform`), and the clauses of the children
combine as their truths do.

Main statement (`selects_of_compile`): a filter whose leaves all lie outside nested objects compiles to a
clause that selects the documents at which the filter holds, and to none only when no leaf of it takes part.
-/

namespace TieredSearch

variable {R : Type}

namespace Filter

/-! ### Leaves at one path -/

/-- Where all leaves lie at the path that is open, a combination opens nothing. -/
theorem scopesFor_of_uniform {shared : Option (List String)} {paths : List (List String)} {path : List String}
    (h : IsShared shared paths) (uniform : ∀ p ∈ paths, p = path) : scopesFor shared path = path := by
  cases shared with
  | none => rfl
  | some shared =>
    have begins : ∀ p ∈ paths, path <+: p := fun p hp => (uniform p hp).symm ▸ List.prefix_rfl
    obtain ⟨deeper, within⟩ := scopesFor_spec h begins
    obtain ⟨p, hp⟩ := List.exists_mem_of_ne_nil _ h.1
    have upTo : scopesFor (some shared) path <+: path := uniform p hp ▸ within p hp
    exact (deeper.eq_of_length_le upTo.length_le).symm

theorem unopened_self (path : List String) : unopened path path = [] := List.drop_length

variable [Scalar R] {t : Target} {dropped : Option String} {path : List String}

/-- The clauses of a combination that opens nothing, from those of its children. -/
theorem exists_clauses_of_group {children : List (Filter R)} {combine : List (Query R) → Query R} {q : Query R}
    (uniform : ∀ p ∈ leafPaths t dropped (leaves.leavesOf children), p = path)
    (compiled : ∃ clauses,
      compileEach t dropped children (scopesFor (nestedScopesAll t dropped children) path) = .ok clauses ∧
        group combine (unopened (scopesFor (nestedScopesAll t dropped children) path) path) clauses = some q) :
    ∃ clauses, compileEach t dropped children path = .ok clauses ∧ clauses ≠ [] ∧ combine clauses = q := by
  rw [scopesFor_of_uniform (isShared_nestedScopesAll t dropped children) uniform, unopened_self] at compiled
  obtain ⟨clauses, each, grouped⟩ := compiled
  exact ⟨clauses, each, group_eq_some_iff.mp grouped⟩

/-- A leaf that is open already holds where its clause selects. -/
theorem selects_of_leaf {leaf : Filter R} {name : String} (tests : leaf.testedField? = some name)
    (uniform : ∀ p ∈ leafPaths t dropped leaf.leaves, p = path) {q : Query R}
    (compiled : compileWithin t dropped leaf path = .ok (some q)) (doc : Json R) :
    q.selects doc = leaf.holds t dropped doc := by
  obtain ⟨f, test, -, -, here, shape, means⟩ := exists_test_at_path tests compiled
  cases compiled.symm.trans (shape path)
  rw [uniform _ here, unopened_self, means]

mutual

/-- Inside the path of all its leaves, a filter's clause selects where the filter holds. -/
theorem selects_of_compileWithin : (f : Filter R) → (∀ p ∈ leafPaths t dropped f.leaves, p = path) →
    {q : Query R} → compileWithin t dropped f path = .ok (some q) →
      ∀ doc, q.selects doc = f.holds t dropped doc
  | .allOf children, uniform, q, compiled, doc => by
    obtain ⟨clauses, each, -, rfl⟩ :=
      exists_clauses_of_group uniform (compileWithin_allOf_eq_ok_iff.mp compiled)
    rw [Query.selects_allOf, holds]
    exact (selects_of_compileEach children uniform each doc).1
  | .anyOf children, uniform, q, compiled, doc => by
    obtain ⟨clauses, each, some, rfl⟩ :=
      exists_clauses_of_group uniform (compileWithin_anyOf_eq_ok_iff.mp compiled)
    rw [Query.selects_anyOf, holds, List.isEmpty_eq_false_iff.mpr some, Bool.false_or]
    exact (selects_of_compileEach children uniform each doc).2
  | .compare _ _ _, uniform, _, compiled, doc => selects_of_leaf rfl uniform compiled doc
  | .missing _, uniform, _, compiled, doc => selects_of_leaf rfl uniform compiled doc
  | .search keyword fields, _, q, compiled, doc => by
    obtain ⟨-, analyzed, -, means⟩ := exists_multiMatch_of_compileWithin compiled
    rw [holds, means]

/-- The clauses of several filters, all of them and some of them. -/
theorem selects_of_compileEach : (children : List (Filter R)) →
    (∀ p ∈ leafPaths t dropped (leaves.leavesOf children), p = path) → {clauses : List (Query R)} →
    compileEach t dropped children path = .ok clauses → ∀ doc,
      clauses.all (·.selects doc) = holdsAll t dropped children doc ∧
        clauses.any (·.selects doc) = holdsSome t dropped children doc
  | [], _, _, compiled, doc => by
    cases compiled
    exact ⟨rfl, rfl⟩
  | child :: rest, uniform, clauses, compiled, doc => by
    rw [leaves.leavesOf, leafPaths_append, List.forall_mem_append] at uniform
    obtain ⟨clause, first, others, further, rfl⟩ := compileEach_cons_eq_ok_iff.mp compiled
    obtain ⟨all, some⟩ := selects_of_compileEach rest uniform.2 further doc
    have part := isSome_of_compileWithin child first
    rw [List.all_append, List.any_append, holdsAll, holdsSome, all, some, ← part]
    -- a child without a clause is not asked
    cases clause with
    | none => exact ⟨rfl, rfl⟩
    | some q => simp [selects_of_compileWithin child uniform.1 first doc]

end

/-! ### Filters outside nested objects -/

/-- A filter whose leaves that take part are all outside nested objects selects the documents at which it
holds; it compiles to no clause only when no leaf takes part. -/
theorem selects_of_compile {f : Filter R} {excludeField : Option String} {filterSelf : Bool}
    (root : ∀ leaf ∈ f.leaves, leaf.contributes (leftOut excludeField filterSelf) = true →
      leaf.leafPath t.schema = [])
    {q : Option (Query R)} (compiled : compile t (some f) excludeField filterSelf none = .ok q) :
    (∀ clause, q = some clause → ∀ doc, clause.selects doc = f.holds t (leftOut excludeField filterSelf) doc) ∧
      (q = none → ∀ leaf ∈ f.leaves, leaf.contributes (leftOut excludeField filterSelf) = false) := by
  rw [compile_alone] at compiled
  have uniform : ∀ p ∈ leafPaths t (leftOut excludeField filterSelf) f.leaves, p = [] := by
    intro p hp
    obtain ⟨leaf, hleaf, rfl⟩ := List.mem_map.mp hp
    exact root leaf (List.mem_filter.mp hleaf).1 (List.mem_filter.mp hleaf).2
  constructor
  · rintro clause rfl
    exact selects_of_compileWithin f uniform compiled
  · rintro rfl leaf hleaf
    have none : f.contributes (leftOut excludeField filterSelf) = false := (isSome_of_compileWithin f compiled).symm
    rw [contributes_eq_any_leaves, List.any_eq_false] at none
    exact Bool.eq_false_iff.mpr (none leaf hleaf)

end Filter

/-- Male or of unknown gender, or thirty and older, but not female, with a label of a visit. -/
def Sample.rootFilter : Filter Rat :=
  .allOf [
    .anyOf [.isIn "gender" ["male", "no data"], .compare (.range .gte) "age" (.str " 30 ")],
    .differs "gender" "female",
    .equals "visits.visit_label" "a"]

open TieredSearch.Filter in
/-- With the label left out, the filter is about fields outside nested objects. -/
theorem selects_of_root_filter : ∃ clause : Query Rat,
    compile Sample.visitTarget (some Sample.rootFilter) (some "visits.visit_label") false none = .ok (some clause) ∧
    (∀ doc, clause.selects doc = Sample.rootFilter.holds Sample.visitTarget (some "visits.visit_label") doc) ∧
    clause.selects (.obj [("gender", .arr [.str "male", .str "other"]), ("age", .int 20)]) = true ∧
    clause.selects (.obj [("age", .int 20)]) = true ∧
    clause.selects (.obj [("gender", .arr [.str "male", .str "female"]), ("age", .int 40)]) = false := by
  have root : ∀ leaf ∈ Sample.rootFilter.leaves,
      leaf.contributes (leftOut (some "visits.visit_label") false) = true →
        leaf.leafPath Sample.visitTarget.schema = [] := by
    intro leaf h
    simp only [Sample.rootFilter, leaves, leaves.leavesOf, isIn, differs, equals, List.cons_append,
      List.nil_append, List.append_nil, List.mem_cons, List.not_mem_nil, or_false] at h
    rcases h with rfl | rfl | rfl | rfl
    · exact fun _ => rfl
    · exact fun _ => rfl
    · exact fun _ => rfl
    · exact fun part => absurd part (by decide)
  obtain ⟨clause, compiled⟩ : ∃ clause, compile Sample.visitTarget (some Sample.rootFilter)
      (some "visits.visit_label") false none = .ok (some clause) := ⟨_, rfl⟩
  have means := (selects_of_compile root compiled).1 clause rfl
  refine ⟨clause, compiled, means, ?_, ?_, ?_⟩
  · rw [means]
    decide +kernel
  · rw [means]
    decide +kernel
  · rw [means]
    decide +kernel

end TieredSearch
