import TieredSearch.Proofs.Filter.Beside
import TieredSearch.Proofs.Filter.Meaning

/-!
# Combinations and their parts

A combination opens the nested objects that all its leaves lie in, and asks every child of one and the same
element. For most children that only takes the opening out of the child: by itself, the child asks for an
element at which its clause holds (`any_narrowings_of_compileWithin`). So a conjunction narrows each child and a
disjunction widens it.

A test of absence is the exception: that a field is missing, or that it differs from a text. By itself it says
that no element has the value, and in a combination with an opened object only that the one element has not.
`narrows_and_widens` says that nothing else is in the way, and that the exception is one: a combination that
opens an object never holds of a document without values, and a test of absence does.
-/

namespace TieredSearch

open Document (valuesAt narrowings)

variable {R : Type}

/-! ### The document without values -/

namespace Document

theorem splitAtPoints_ne_nil (text : List Char) : splitAtPoints text ≠ [] := by
  cases text with
  | nil => exact List.cons_ne_nil _ _
  | cons c rest =>
    rw [splitAtPoints]
    split
    · exact List.cons_ne_nil _ _
    · split <;> exact List.cons_ne_nil _ _

theorem foldl_descend_nil (path : List String) : path.foldl descend ([] : List (Json R)) = [] := by
  induction path with
  | nil => rfl
  | cons segment rest ih => exact ih

theorem valuesAt_nothing (path : String) : valuesAt (.obj [] : Json R) path = [] := by
  obtain ⟨segment, rest, split⟩ := List.exists_cons_of_ne_nil
    ((List.map_eq_nil_iff (f := String.ofList)).not.mpr (splitAtPoints_ne_nil path.toList))
  rw [valuesAt, segments, split, List.foldl_cons]
  exact congrArg (List.filter _) (foldl_descend_nil rest)

theorem narrowings_nothing {paths : List String} (nested : paths ≠ []) :
    narrowings paths (.obj [] : Json R) = [] := by
  obtain ⟨path, rest, rfl⟩ := List.exists_cons_of_ne_nil nested
  rw [narrowings, valuesAt_nothing, List.flatMap_nil]

end Document

/-- A clause inside nested objects is asked of the elements of the outer ones in turn. -/
theorem Query.selects_nestedIn_append [Scalar R] (outer inner : List String) (q : Query R) (doc : Json R) :
    (nestedIn (outer ++ inner) q).selects doc = (narrowings outer doc).any (nestedIn inner q).selects := by
  rw [selects_nestedIn, Document.narrowings_append, List.any_flatMap]
  exact congrArg (List.any _) (funext fun view => (selects_nestedIn inner q view).symm)

namespace Filter

/-! ### Tests of absence -/

/-- Whether a test of a field holds when nothing is there. -/
def FieldTest.isOfAbsence : FieldTest R → Bool
  | someElement _ => false
  | noElement _ => true
  | someOrNoElement _ _ => true

section Tests

variable [Scalar R] {test : FieldTest R} {field : String}

/-- A document without values passes the tests of absence and no other, whatever is opened for them. -/
theorem FieldTest.selects_nothing (about : test.About field) (scopes : List String) :
    (test.within scopes).selects (.obj []) = test.isOfAbsence := by
  have none {q : Query R} (tested : q.testedField? = some field) :
      (Query.nestedIn scopes q).selects (.obj []) = false := by
    rw [Query.selects_nestedIn, List.any_eq_false]
    intro view hview
    cases scopes with
    | nil =>
      cases List.mem_singleton.mp hview
      exact Bool.eq_false_iff.mp (Query.selects_of_valuesAt_nil tested (Document.valuesAt_nothing field))
    | cons path rest =>
      rw [Document.narrowings_nothing (List.cons_ne_nil _ _)] at hview
      cases hview
  cases test with
  | someElement test => exact none about
  | noElement test => rw [within, Query.selects_noneOf, none about, isOfAbsence, Bool.not_false]
  | someOrNoElement test absence =>
    rw [within, Query.selects_anyOf, isOfAbsence]
    simp [none about.2]

/-- A test of presence asks the elements of the outer nested objects in turn. -/
theorem FieldTest.selects_append (presence : test.isOfAbsence = false) (outer inner : List String)
    (doc : Json R) :
    (test.within (outer ++ inner)).selects doc = (narrowings outer doc).any (test.within inner).selects := by
  cases test with
  | someElement test => exact Query.selects_nestedIn_append outer inner test doc
  | noElement _ => cases presence
  | someOrNoElement _ _ => cases presence

/-- A test of one field that holds of a document without values: the field is missing, differs from a text, or
is the operand that stands for a missing value. -/
def testsAbsence (t : Target) (f : Filter R) : Bool :=
  f.testedField?.isSome && f.holds t none (.obj [])

theorem testsAbsence_missing (t : Target) (name : String) : (missing name : Filter R).testsAbsence t = true := by
  rw [testsAbsence, holds, Document.valuesAt_nothing]
  rfl

variable {t : Target} {name : String} {f : Field} (found : t.schema.field? name = some f)

include found

/-- On a text field, the tests of absence are that no value is a text, and that some value is the alias. -/
theorem testsAbsence_text (text : f.kind = .text) (op : Operator) (operand : Json R) :
    (compare op name operand).testsAbsence t = match op with
      | .eq => (textOperand f.name operand).toOption.any fun s => t.missingAlias = some s
      | .ne => (textOperand f.name operand).toOption.any fun s => t.missingAlias ≠ some s
      | .among => (listedOperands f.name operand).toOption.any (·.any fun s => t.missingAlias = some s)
      | .range _ => false := by
  have has : hasText t.missingAlias (.obj [] : Json R) f.name = fun s => decide (t.missingAlias = some s) := by
    funext s
    rw [hasText, Document.valuesAt_nothing]
    split <;> simp [*]
  rw [testsAbsence, testedField?, Option.isSome_some, Bool.true_and, holds, found, Option.any_some]
  cases op <;> simp [compares, text, has]

/-- On a numeric field, the tests of absence are that no value is a number. -/
theorem testsAbsence_numeric (numeric : f.kind = .numeric) (op : Operator) (operand : Json R) :
    (compare op name operand).testsAbsence t = match op with
      | .ne => (numericOperand f.name operand).toOption.isSome
      | _ => false := by
  have values : valuesAt (.obj [] : Json R) f.name = [] := Document.valuesAt_nothing f.name
  have has : hasNumber (.obj [] : Json R) f.name = fun _ => false := by
    funext number
    rw [hasNumber, values, List.any_nil]
  rw [testsAbsence, testedField?, Option.isSome_some, Bool.true_and, holds, found, Option.any_some]
  cases op <;> simp [compares, numeric, has, Document.numbersAt, values]

end Tests

/-! ### A child inside and outside a combination -/

theorem leafPaths_eq_nil_iff {t : Target} {dropped : Option String} {leaves : List (Filter R)} :
    leafPaths t dropped leaves = [] ↔ leaves.any (·.contributes dropped) = false := by
  rw [leafPaths, List.map_eq_nil_iff, List.filter_eq_nil_iff, List.any_eq_false]

variable [Scalar R] {t : Target} {dropped : Option String} {opened : List String}

/-- The clause of a combination by itself asks for an element at which the clause inside opened scopes
holds. -/
theorem any_narrowings_of_group {children : List (Filter R)} {combine : List (Query R) → Query R}
    {alone inside : Query R}
    (begins : ∀ path ∈ leafPaths t dropped (leaves.leavesOf children), opened <+: path)
    (compiled : ∃ clauses,
      compileEach t dropped children (scopesFor (nestedScopesAll t dropped children) []) = .ok clauses ∧
        group combine (unopened (scopesFor (nestedScopesAll t dropped children) []) []) clauses = some alone)
    (within : ∃ clauses,
      compileEach t dropped children (scopesFor (nestedScopesAll t dropped children) opened) = .ok clauses ∧
        group combine (unopened (scopesFor (nestedScopesAll t dropped children) opened) opened) clauses =
          some inside) (doc : Json R) :
    alone.selects doc = (narrowings opened doc).any inside.selects := by
  have shares := isShared_nestedScopesAll t dropped children
  obtain ⟨clauses, each, grouped⟩ := compiled
  obtain ⟨some, rfl⟩ := group_eq_some_iff.mp grouped
  cases scopes : nestedScopesAll t dropped children with
  | none =>
    -- no leaf takes part, so there would be no clause
    rw [scopes] at shares
    have part := isEmpty_of_compileEach children each
    rw [anyContributes_eq_any_leaves, leafPaths_eq_nil_iff.mp shares] at part
    exact absurd (List.isEmpty_iff.mp part) some
  | some shared =>
    rw [scopes] at shares each within
    rw [scopesFor_some (List.nil_prefix)] at each
    rw [scopesFor_some ((shares.2 opened).mpr begins)] at within
    obtain ⟨clauses', each', grouped'⟩ := within
    cases each.symm.trans each'
    obtain ⟨-, rfl⟩ := group_eq_some_iff.mp grouped'
    rw [← Query.selects_nestedIn_append, append_unopened ((shares.2 opened).mpr begins),
      scopesFor_some List.nil_prefix]
    rfl

/-- Unless it is a test of absence inside opened scopes, a filter by itself asks for an element at which its
clause inside them holds. -/
theorem any_narrowings_of_compileWithin {f : Filter R} {alone inside : Query R}
    (begins : ∀ path ∈ leafPaths t dropped f.leaves, opened <+: path)
    (apart : opened = [] ∨ f.testsAbsence t = false)
    (compiled : compileWithin t dropped f [] = .ok (some alone))
    (within : compileWithin t dropped f opened = .ok (some inside)) (doc : Json R) :
    alone.selects doc = (narrowings opened doc).any inside.selects := by
  rcases apart with rfl | presence
  · cases compiled.symm.trans within
    simp [narrowings]
  have leaf {name : String} (tests : f.testedField? = some name) :
      alone.selects doc = (narrowings opened doc).any inside.selects := by
    obtain ⟨field, test, -, about, path, shape, means⟩ := exists_test_at_path tests compiled
    have ofPresence : test.isOfAbsence = false := by
      rw [testsAbsence, tests, Option.isSome_some, Bool.true_and] at presence
      rw [← FieldTest.selects_nothing about [], means, holds_of_testedField? tests t dropped none, presence]
    cases compiled.symm.trans (shape [])
    cases within.symm.trans (shape opened)
    rw [← FieldTest.selects_append ofPresence, append_unopened (begins _ path)]
    rfl
  cases f with
  | allOf children =>
    exact any_narrowings_of_group begins (compileWithin_allOf_eq_ok_iff.mp compiled)
      (compileWithin_allOf_eq_ok_iff.mp within) doc
  | anyOf children =>
    exact any_narrowings_of_group begins (compileWithin_anyOf_eq_ok_iff.mp compiled)
      (compileWithin_anyOf_eq_ok_iff.mp within) doc
  | compare _ _ _ => exact leaf rfl
  | missing _ => exact leaf rfl
  | search keyword fields =>
    obtain ⟨worded, -⟩ := exists_multiMatch_of_compileWithin compiled
    cases eq_nil_of_search worded begins
    cases compiled.symm.trans within
    simp [narrowings]

/-! ### All children of a combination -/

omit [Scalar R] in
theorem mem_leavesOf {leaf : Filter R} {children : List (Filter R)} :
    leaf ∈ leaves.leavesOf children ↔ ∃ child ∈ children, leaf ∈ child.leaves := by
  induction children with
  | nil => simp [leaves.leavesOf]
  | cons child rest ih => rw [leaves.leavesOf, List.mem_append, ih, List.exists_mem_cons_iff]

omit [Scalar R] in
theorem leafPaths_subset {child : Filter R} {children : List (Filter R)} (member : child ∈ children) :
    leafPaths t dropped child.leaves ⊆ leafPaths t dropped (leaves.leavesOf children) :=
  List.map_subset _ (List.filter_subset _ fun _ h => mem_leavesOf.mpr ⟨child, member, h⟩)

/-- Children that compile one by one compile together, whatever is open. -/
theorem exists_clauses_of_compiles {children : List (Filter R)}
    (compiles : ∀ child ∈ children, ∃ q, compileWithin t dropped child [] = .ok q) (opened : List String) :
    ∃ clauses, compileEach t dropped children opened = .ok clauses := by
  induction children with
  | nil => exact ⟨[], rfl⟩
  | cons child rest ih =>
    obtain ⟨q, hq⟩ := compiles child List.mem_cons_self
    obtain ⟨clause, first, -⟩ := (hq ▸ compileWithin_agree t dropped child opened []).exists_left
    obtain ⟨others, further⟩ := ih fun c hc => compiles c (List.mem_cons_of_mem _ hc)
    exact ⟨_, compileEach_cons_eq_ok_iff.mpr ⟨clause, first, others, further, rfl⟩⟩

/-- A child that takes part has a clause among those of the children. -/
theorem exists_clause_of_mem {child : Filter R} {children : List (Filter R)} (member : child ∈ children)
    (part : child.contributes dropped = true) {clauses : List (Query R)}
    (each : compileEach t dropped children opened = .ok clauses) :
    ∃ inside ∈ clauses, compileWithin t dropped child opened = .ok (some inside) := by
  induction children generalizing clauses with
  | nil => cases member
  | cons first rest ih =>
    obtain ⟨clause, compiled, others, further, rfl⟩ := compileEach_cons_eq_ok_iff.mp each
    rcases List.mem_cons.mp member with rfl | member
    · rw [← isSome_of_compileWithin child compiled, Option.isSome_iff_exists] at part
      obtain ⟨inside, rfl⟩ := part
      exact ⟨inside, List.mem_cons_self, compiled⟩
    · obtain ⟨inside, listed, compiled⟩ := ih member further
      exact ⟨inside, List.mem_append_right _ listed, compiled⟩

/-- Some nested object is around every leaf of several filters that takes part. -/
def Grouped (t : Target) (dropped : Option String) (children : List (Filter R)) : Prop :=
  ∃ object, ∀ path ∈ leafPaths t dropped (leaves.leavesOf children), [object] <+: path

omit [Scalar R] in
/-- A combination opens an object exactly when one is around all its leaves. -/
theorem scopesFor_ne_nil_iff {children : List (Filter R)} {child : Filter R} (member : child ∈ children)
    (part : child.contributes dropped = true) :
    scopesFor (nestedScopesAll t dropped children) [] ≠ [] ↔ Grouped t dropped children := by
  have shares := isShared_nestedScopesAll t dropped children
  cases scopes : nestedScopesAll t dropped children with
  | none =>
    rw [scopes] at shares
    have taken : leafPaths t dropped child.leaves ⊆ leafPaths t dropped (leaves.leavesOf children) :=
      leafPaths_subset member
    rw [shares, List.subset_nil, leafPaths_eq_nil_iff, ← contributes_eq_any_leaves, part] at taken
    cases taken
  | some shared =>
    rw [scopes] at shares
    rw [scopesFor_some List.nil_prefix, Grouped]
    simp only [← shares.2]
    cases shared with
    | nil => simp
    | cons object rest => exact ⟨fun _ => ⟨object, by simp⟩, fun _ => List.cons_ne_nil _ _⟩

/-- A test of absence is overturned when the combination around it opens an object: it is then asked of one
element of the object. -/
def Overturned (t : Target) (dropped : Option String) (children : List (Filter R)) (child : Filter R) : Prop :=
  child.testsAbsence t = true ∧ Grouped t dropped children

/-- By itself, a test of absence holds of a document without values. -/
theorem selects_nothing_of_testsAbsence {f : Filter R} {alone : Query R} (absence : f.testsAbsence t = true)
    (compiled : compileWithin t dropped f [] = .ok (some alone)) : alone.selects (.obj []) = true := by
  rw [testsAbsence, Bool.and_eq_true, Option.isSome_iff_exists] at absence
  obtain ⟨⟨name, tests⟩, held⟩ := absence
  obtain ⟨field, test, -, about, shape, means⟩ := exists_test_of_compileWithin tests compiled
  cases compiled.symm.trans (shape [])
  rw [FieldTest.selects_nothing about, ← FieldTest.selects_nothing about [], means,
    holds_of_testedField? tests t dropped none, held]

/-! ### Narrowing and widening -/

/-- A combination with a clause asks for an element of what it opens. -/
theorem admits_group {combine : List (Query R) → Query R} {clauses : List (Query R)} (some : clauses ≠ [])
    (scopes : List String) (doc : Json R) :
    Query.admits (group combine (unopened scopes []) clauses) doc =
      (narrowings scopes doc).any (combine clauses).selects := by
  rw [group, if_neg (by simpa using some), Query.admits_some, Query.selects_nestedIn]
  rfl

section Child

variable {children : List (Filter R)} {child : Filter R} (member : child ∈ children) {clauses : List (Query R)}
  (each : compileEach t dropped children (scopesFor (nestedScopesAll t dropped children) []) = .ok clauses)
  {alone : Query R} (compiled : compileWithin t dropped child [] = .ok (some alone))

include member each compiled

/-- A child of a combination has a clause inside it. Unless the child is overturned, by itself it asks for an
element of what the combination opens at which the clause holds. -/
theorem exists_inside : ∃ inside ∈ clauses,
    compileWithin t dropped child (scopesFor (nestedScopesAll t dropped children) []) = .ok (some inside) ∧
      (¬ Overturned t dropped children child → ∀ doc, alone.selects doc =
        (narrowings (scopesFor (nestedScopesAll t dropped children) []) doc).any inside.selects) := by
  have part : child.contributes dropped = true := (isSome_of_compileWithin child compiled).symm
  obtain ⟨inside, listed, within⟩ := exists_clause_of_mem member part each
  refine ⟨inside, listed, within, fun upright => ?_⟩
  obtain ⟨-, begins⟩ := scopesFor_spec (isShared_nestedScopesAll t dropped children) (nil_begins _)
  refine any_narrowings_of_compileWithin (fun path hpath => begins path (leafPaths_subset member hpath)) ?_
    compiled within
  by_cases absence : child.testsAbsence t = true
  · refine .inl (by_contra fun opens => upright ⟨absence, ?_⟩)
    exact (scopesFor_ne_nil_iff member part).mp opens
  · exact .inr (Bool.eq_false_iff.mpr absence)

/-- A conjunction narrows a child that is not overturned. -/
theorem selects_of_admits_allOf (upright : ¬ Overturned t dropped children child) {doc : Json R}
    (admitted : Query.admits (group .allOf (unopened (scopesFor (nestedScopesAll t dropped children) []) [])
      clauses) doc = true) : alone.selects doc = true := by
  obtain ⟨inside, listed, -, asks⟩ := exists_inside member each compiled
  rw [admits_group (List.ne_nil_of_mem listed), List.any_eq_true] at admitted
  obtain ⟨view, hview, all⟩ := admitted
  rw [Query.selects_allOf, List.all_eq_true] at all
  rw [asks upright, List.any_eq_true]
  exact ⟨view, hview, all inside listed⟩

/-- A disjunction widens a child that is not overturned. -/
theorem admits_anyOf_of_selects (upright : ¬ Overturned t dropped children child) {doc : Json R}
    (selected : alone.selects doc = true) :
    Query.admits (group .anyOf (unopened (scopesFor (nestedScopesAll t dropped children) []) []) clauses) doc =
      true := by
  obtain ⟨inside, listed, -, asks⟩ := exists_inside member each compiled
  rw [asks upright, List.any_eq_true] at selected
  obtain ⟨view, hview, held⟩ := selected
  rw [admits_group (List.ne_nil_of_mem listed), List.any_eq_true]
  refine ⟨view, hview, ?_⟩
  rw [Query.selects_anyOf, Bool.or_eq_true, List.any_eq_true]
  exact .inr ⟨inside, listed, held⟩

/-- An overturned child holds of a document without values, and no combination that overturns it does. -/
theorem nothing_of_overturned (overturned : Overturned t dropped children child)
    (combine : List (Query R) → Query R) :
    alone.selects (.obj []) = true ∧
      Query.admits (group combine (unopened (scopesFor (nestedScopesAll t dropped children) []) []) clauses)
        (.obj []) = false := by
  have part : child.contributes dropped = true := (isSome_of_compileWithin child compiled).symm
  obtain ⟨inside, listed, -⟩ := exists_inside member each compiled
  refine ⟨selects_nothing_of_testsAbsence overturned.1 compiled, ?_⟩
  rw [admits_group (List.ne_nil_of_mem listed),
    Document.narrowings_nothing ((scopesFor_ne_nil_iff member part).mpr overturned.2), List.any_nil]

/-- A disjunction widens exactly the children that are not overturned. -/
theorem widens_iff :
    (∀ doc, alone.selects doc = true → Query.admits (group .anyOf
      (unopened (scopesFor (nestedScopesAll t dropped children) []) []) clauses) doc = true) ↔
      ¬ Overturned t dropped children child := by
  constructor
  · intro widens overturned
    obtain ⟨holds, fails⟩ := nothing_of_overturned member each compiled overturned .anyOf
    exact Bool.false_ne_true (fails.symm.trans (widens _ holds))
  · exact fun upright doc => admits_anyOf_of_selects member each compiled upright

/-- A combination of one child means what the child means exactly when it does not overturn it. -/
theorem same_iff_of_only (only : children = [child]) {combine : List (Query R) → Query R}
    (single : ∀ q doc, (combine [q]).selects doc = q.selects doc) :
    (∀ doc, Query.admits (group combine
      (unopened (scopesFor (nestedScopesAll t dropped children) []) []) clauses) doc = alone.selects doc) ↔
      ¬ Overturned t dropped children child := by
  constructor
  · intro same overturned
    obtain ⟨holds, fails⟩ := nothing_of_overturned member each compiled overturned combine
    exact Bool.false_ne_true (fails.symm.trans ((same _).trans holds))
  · intro upright doc
    obtain ⟨inside, listed, within, asks⟩ := exists_inside member each compiled
    subst only
    obtain ⟨clause, first, others, last, rfl⟩ := compileEach_cons_eq_ok_iff.mp each
    cases within.symm.trans first
    cases last
    rw [admits_group (List.ne_nil_of_mem listed), asks upright]
    exact congrArg (List.any _) (funext fun view => single inside view)

end Child

/-- Filters that compile one by one compile together. The conjunction narrows each child that is not overturned,
the disjunction widens exactly the children that are not overturned, and a combination of one child means what
the child means exactly when it does not overturn it. -/
theorem narrows_and_widens {children : List (Filter R)} {excludeField : Option String} {filterSelf : Bool}
    (compiles : ∀ child ∈ children, ∃ q, compile t (some child) excludeField filterSelf none = .ok q) :
    ∃ all any, compile t (some (.allOf children)) excludeField filterSelf none = .ok all ∧
      compile t (some (.anyOf children)) excludeField filterSelf none = .ok any ∧
      ∀ child ∈ children, ∀ alone, compile t (some child) excludeField filterSelf none = .ok (some alone) →
        (¬ Overturned t (leftOut excludeField filterSelf) children child →
          ∀ doc, Query.admits all doc = true → alone.selects doc = true) ∧
        ((∀ doc, alone.selects doc = true → Query.admits any doc = true) ↔
          ¬ Overturned t (leftOut excludeField filterSelf) children child) ∧
        (children = [child] →
          ((∀ doc, Query.admits all doc = alone.selects doc) ↔
            ¬ Overturned t (leftOut excludeField filterSelf) children child) ∧
          ((∀ doc, Query.admits any doc = alone.selects doc) ↔
            ¬ Overturned t (leftOut excludeField filterSelf) children child)) := by
  simp only [compile_alone] at *
  generalize leftOut excludeField filterSelf = dropped at *
  obtain ⟨clauses, each⟩ :=
    exists_clauses_of_compiles compiles (scopesFor (nestedScopesAll t dropped children) [])
  refine ⟨_, _, compileWithin_allOf_eq_ok_iff.mpr ⟨clauses, each, rfl⟩,
    compileWithin_anyOf_eq_ok_iff.mpr ⟨clauses, each, rfl⟩, fun child member alone compiled => ?_⟩
  refine ⟨fun upright doc => selects_of_admits_allOf member each compiled upright,
    widens_iff member each compiled, fun only => ⟨?_, ?_⟩⟩
  · exact same_iff_of_only member each compiled only fun q doc => by simp
  · exact same_iff_of_only member each compiled only fun q doc => by simp [Query.selects_anyOf]

end Filter

open TieredSearch.Filter in
/-- Beside a field outside the visits, that no visit has a label is not overturned. -/
theorem label_narrowed_beside_gender : ∃ (all any : Option (Query Rat)) (alone : Query Rat),
    compile Sample.visitTarget (some (.allOf [differs "visits.visit_label" "a", equals "gender" "male"])) none true
      none = .ok all ∧
    compile Sample.visitTarget (some (.anyOf [differs "visits.visit_label" "a", equals "gender" "male"])) none true
      none = .ok any ∧
    compile Sample.visitTarget (some (differs "visits.visit_label" "a")) none true none = .ok (some alone) ∧
    (∀ doc, Query.admits all doc = true → alone.selects doc = true) ∧
    (∀ doc, alone.selects doc = true → Query.admits any doc = true) := by
  have compiles : ∀ child ∈ [differs "visits.visit_label" "a", (equals "gender" "male" : Filter Rat)],
      ∃ q, compile Sample.visitTarget (some child) none true none = .ok q :=
    List.forall_mem_cons.mpr ⟨⟨_, rfl⟩, List.forall_mem_singleton.mpr ⟨_, rfl⟩⟩
  have upright : ¬ Overturned Sample.visitTarget (leftOut none true)
      [differs "visits.visit_label" "a", (equals "gender" "male" : Filter Rat)]
      (differs "visits.visit_label" "a") := by
    rintro ⟨-, object, around⟩
    have root : [object] <+: [] := around [] (.tail _ (.head _))
    cases List.prefix_nil.mp root
  obtain ⟨all, any, conjunction, disjunction, children⟩ := narrows_and_widens compiles
  obtain ⟨alone, compiled⟩ : ∃ alone,
      compile Sample.visitTarget (some (differs "visits.visit_label" "a" : Filter Rat)) none true none =
        .ok (some alone) := ⟨_, rfl⟩
  obtain ⟨narrows, widens, -⟩ := children _ List.mem_cons_self alone compiled
  exact ⟨all, any, alone, conjunction, disjunction, compiled, narrows upright, widens.mpr upright⟩

open TieredSearch.Filter in
/-- That no visit has the label "a", put into a conjunction of its own, holds of a subject with that label at
one visit and another label at the next. Put into a disjunction of its own, it fails of a subject without
visits. -/
theorem label_overturned_by_itself : ∃ all any alone : Query Rat,
    compile Sample.visitTarget (some (.allOf [differs "visits.visit_label" "a"])) none true none = .ok (some all) ∧
    compile Sample.visitTarget (some (.anyOf [differs "visits.visit_label" "a"])) none true none = .ok (some any) ∧
    compile Sample.visitTarget (some (differs "visits.visit_label" "a")) none true none = .ok (some alone) ∧
    (all.selects (.obj [("visits", .arr [.obj [("visit_label", .str "a")], .obj [("visit_label", .str "b")]])])
      = true ∧
    alone.selects (.obj [("visits", .arr [.obj [("visit_label", .str "a")], .obj [("visit_label", .str "b")]])])
      = false) ∧
    alone.selects (.obj []) = true ∧ any.selects (.obj []) = false :=
  ⟨_, _, _, rfl, rfl, rfl, by decide +kernel⟩

end TieredSearch
