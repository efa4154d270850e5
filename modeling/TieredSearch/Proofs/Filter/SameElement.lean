import TieredSearch.Proofs.Filter.Combinations
import TieredSearch.Proofs.Filter.Meaning

/-!
# Leaves on one nested path

Where all leaves of a combination lie inside the same nested objects, the combination opens the objects once,
and no combination in it opens them again. So every leaf speaks about the same elements: a subject with a low
result at one visit and a high result at the next has no visit with a result in between.

* `Chain paths doc elements view`: one element is chosen for each path, from the outermost to the innermost,
  each inside the one before, and `view` is the document with the elements put in the place of what is under
  the paths.
* Main statement (`selects_iff_exists_chain`): the clause of such a combination selects a document exactly
  when the combination holds at the view of some chain.

A leaf outside any combination opens the objects for its own test. It then asks for an element as well, unless
it is a test of absence (`Overturned` says what a combination changes there).
-/

namespace TieredSearch

variable {R : Type}

/-! ### Chains of elements -/

namespace Document

/-- `Chain paths doc elements view`: the elements are chosen one inside the other, one for each path, and the
view is the document with the paths replaced by them. -/
inductive Chain : List String → Json R → List (Json R) → Json R → Prop where
  /-- Without a path nothing is chosen, and the document is seen as it is. -/
  | nil (doc : Json R) : Chain [] doc [] doc
  /-- An element at the outermost path is chosen, and the further ones in the document as it looks from there. -/
  | cons {path : String} {paths : List String} {doc element view : Json R} {elements : List (Json R)}
      (held : element ∈ valuesAt doc path) (inner : Chain paths (narrow doc path element) elements view) :
      Chain (path :: paths) doc (element :: elements) view

/-- What a document looks like from inside nested objects is its view from some chain of elements. -/
theorem mem_narrowings_iff {paths : List String} {doc view : Json R} :
    view ∈ narrowings paths doc ↔ ∃ elements, Chain paths doc elements view := by
  induction paths generalizing doc with
  | nil =>
    constructor
    · intro h
      cases List.mem_singleton.mp h
      exact ⟨[], .nil _⟩
    · rintro ⟨elements, h⟩
      cases h
      exact List.mem_singleton_self _
  | cons path paths ih =>
    rw [narrowings, List.mem_flatMap]
    constructor
    · rintro ⟨element, held, inner⟩
      obtain ⟨elements, chain⟩ := ih.mp inner
      exact ⟨element :: elements, .cons held chain⟩
    · rintro ⟨elements, h⟩
      cases h with
      | cons held inner => exact ⟨_, held, ih.mpr ⟨_, inner⟩⟩

end Document

open Document (Chain)

namespace Filter

/-! ### Leaves at a path -/

/-- A conjunction or a disjunction. -/
def isCombination : Filter R → Bool
  | .allOf _ => true
  | .anyOf _ => true
  | _ => false

/-- `LiesAt t path leaf`: the leaf tests a field of the index, which is inside exactly the nested objects of
the path. -/
def LiesAt (t : Target) (path : List String) (leaf : Filter R) : Prop :=
  ∃ name, leaf.testedField? = some name ∧ ∃ f, t.schema.field? name = some f ∧ f.nestedPath = path

theorem LiesAt.leafPath_eq {t : Target} {path : List String} {leaf : Filter R} (h : LiesAt t path leaf) :
    leaf.leafPath t.schema = path := by
  obtain ⟨name, tests, f, found, rfl⟩ := h
  simp only [leafPath, tests, Schema.nestedPath, found]

variable {t : Target} {dropped : Option String} {path : List String}

theorem leafPaths_of_liesAt {leaves : List (Filter R)}
    (uniform : ∀ leaf ∈ leaves, leaf.contributes dropped = true → LiesAt t path leaf) :
    ∀ p ∈ leafPaths t dropped leaves, p = path := by
  intro p hp
  obtain ⟨leaf, hleaf, rfl⟩ := List.mem_map.mp hp
  obtain ⟨listed, part⟩ := List.mem_filter.mp hleaf
  exact (uniform leaf listed part).leafPath_eq

variable [Scalar R]

/-- A combination is no test of absence by itself. -/
theorem testsAbsence_of_isCombination {f : Filter R} (combination : f.isCombination = true) :
    f.testsAbsence t = false := by
  cases f with
  | allOf _ => rfl
  | anyOf _ => rfl
  | _ => cases combination

/-- What compiles to a clause outside nested objects compiles to a clause inside them. -/
theorem exists_clause_within {f : Filter R} {clause : Query R}
    (compiled : compileWithin t dropped f [] = .ok (some clause)) (opened : List String) :
    ∃ inside, compileWithin t dropped f opened = .ok (some inside) := by
  obtain ⟨inside, within, -⟩ := (compiled ▸ compileWithin_agree t dropped f opened []).exists_left
  have part : inside.isSome = true := by
    rw [isSome_of_compileWithin f within, ← isSome_of_compileWithin f compiled, Option.isSome_some]
  obtain ⟨q, rfl⟩ := Option.isSome_iff_exists.mp part
  exact ⟨q, within⟩

/-- A combination whose leaves that take part all lie at one path compiles to a clause exactly when some leaf
takes part. The clause selects a document exactly when there is a chain of elements along the path, such that
the combination holds at the document as it looks from the chain. -/
theorem selects_iff_exists_chain {f : Filter R} {excludeField : Option String} {filterSelf : Bool}
    (combination : f.isCombination = true)
    (uniform : ∀ leaf ∈ f.leaves, leaf.contributes (leftOut excludeField filterSelf) = true → LiesAt t path leaf)
    {q : Option (Query R)} (compiled : compile t (some f) excludeField filterSelf none = .ok q) :
    (q.isSome = true ↔ ∃ leaf ∈ f.leaves, leaf.contributes (leftOut excludeField filterSelf) = true) ∧
      ∀ clause, q = some clause → ∀ doc, clause.selects doc = true ↔
        ∃ elements view, Chain path doc elements view ∧
          f.holds t (leftOut excludeField filterSelf) view = true := by
  rw [compile_alone] at compiled
  generalize leftOut excludeField filterSelf = dropped at *
  constructor
  · rw [isSome_of_compileWithin f compiled, contributes_eq_any_leaves, List.any_eq_true]
  · rintro clause rfl doc
    have paths : ∀ p ∈ leafPaths t dropped f.leaves, p = path := leafPaths_of_liesAt uniform
    have begins : ∀ p ∈ leafPaths t dropped f.leaves, path <+: p := by
      intro p hp
      rw [paths p hp]
    obtain ⟨inside, within⟩ := exists_clause_within compiled path
    -- outside, the clause asks for a view at which the clause inside the path selects
    rw [any_narrowings_of_compileWithin begins (.inr (testsAbsence_of_isCombination combination)) compiled within,
      List.any_eq_true]
    constructor
    · rintro ⟨view, hview, selected⟩
      obtain ⟨elements, chain⟩ := Document.mem_narrowings_iff.mp hview
      rw [selects_of_compileWithin f paths within] at selected
      exact ⟨elements, view, chain, selected⟩
    · rintro ⟨elements, view, chain, held⟩
      refine ⟨view, Document.mem_narrowings_iff.mpr ⟨elements, chain⟩, ?_⟩
      rw [selects_of_compileWithin f paths within, held]

end Filter

/-- A result of five and more that is under seven or not recorded; beside it a blank keyword, and an age. -/
def Sample.resultFilter : Filter Rat :=
  .allOf [
    .compare (.range .gte) "visits.labs.result" (.int 5),
    .anyOf [.compare (.range .lt) "visits.labs.result" (.str "7"), .missing "visits.labs.result", .search " " []],
    .compare .eq "age" (.int 30)]

/-- A subject with visits, and at each of them laboratory results. -/
def Sample.subjectWithResults (visits : List (List Int)) : Json Rat :=
  .obj [("visits", .arr (visits.map fun results =>
    .obj [("labs", .arr (results.map fun n => .obj [("result", .int n)]))]))]

open TieredSearch.Filter in
/-- With the age left out, the filter asks for one result between five and seven: three and nine are none,
whether they are of one visit or of two. -/
theorem selects_result_between_five_and_seven : ∃ clause : Query Rat,
    compile Sample.visitTarget (some Sample.resultFilter) (some "age") false none = .ok (some clause) ∧
    (∀ doc, clause.selects doc = true ↔ ∃ elements view, Chain ["visits", "visits.labs"] doc elements view ∧
      Sample.resultFilter.holds Sample.visitTarget (some "age") view = true) ∧
    clause.selects (Sample.subjectWithResults [[3], [9, 6]]) = true ∧
    clause.selects (Sample.subjectWithResults [[3, 9], [9], [3]]) = false := by
  have uniform : ∀ leaf ∈ Sample.resultFilter.leaves, leaf.contributes (leftOut (some "age") false) = true →
      LiesAt Sample.visitTarget ["visits", "visits.labs"] leaf := by
    intro leaf h
    simp only [Sample.resultFilter, leaves, leaves.leavesOf, List.cons_append, List.nil_append, List.append_nil,
      List.mem_cons, List.not_mem_nil, or_false] at h
    rcases h with rfl | rfl | rfl | rfl | rfl
    · exact fun _ => ⟨_, rfl, _, rfl, rfl⟩
    · exact fun _ => ⟨_, rfl, _, rfl, rfl⟩
    · exact fun _ => ⟨_, rfl, _, rfl, rfl⟩
    · exact fun part => absurd part (by decide)
    · exact fun part => absurd part (by decide)
  obtain ⟨clause, compiled⟩ : ∃ clause, compile Sample.visitTarget (some Sample.resultFilter) (some "age") false
      none = .ok (some clause) := ⟨_, rfl⟩
  have means := (selects_iff_exists_chain rfl uniform compiled).2 clause rfl
  refine ⟨clause, compiled, means, ?_, ?_⟩
  · cases compiled
    decide +kernel
  · cases compiled
    decide +kernel

end TieredSearch
