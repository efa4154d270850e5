import TieredSearch.Filter.Meaning
import TieredSearch.Query.Nesting
import TieredSearch.Proofs.Filter.Restriction

/-!
# The clauses of a filter

What every leaf and every combination compiles to, said once.

* A comparison or a missing-field test compiles to a test of its field (`FieldTest`), which is the same
  wherever the leaf stands: only the nested objects that are opened for it differ
  (`exists_test_of_compileWithin`).
* A keyword search looks in fields outside nested objects (`exists_multiMatch_of_compileSearch`).
* A combination puts the clauses of its children together, unless there is none (`group`).

Whether a filter takes part at all is a matter of its leaves (`contributes_eq_any_leaves`), and decides
whether it compiles to a clause (`isSome_of_compileWithin`).
-/

namespace TieredSearch

open Document (valuesAt narrowings)

variable {R : Type}

@[simp] theorem Query.selects_range [Scalar R] (field : String) (bound : Bound) (limit doc : Json R) :
    (range field bound limit).selects doc =
      limit.number?.any fun l => (Document.numbersAt doc field).any (bound.admits l) := by
  rw [selects]
  cases limit.number? <;> rfl

@[simp] theorem Query.selects_multiMatch [Scalar R] (keyword : String) (fields : List String)
    (doc : Json R) : (multiMatch keyword fields).selects doc = fields.any (mentions keyword doc) := by
  rw [selects]

/-- A test of a field that no document without values of the field passes. -/
theorem Query.selects_of_valuesAt_nil [Scalar R] {test : Query R} {field : String}
    (tested : test.testedField? = some field) {doc : Json R} (lacking : valuesAt doc field = []) :
    test.selects doc = false := by
  cases test <;> cases tested
  · simp [selects, lacking]
  · simp [selects, lacking]
  · simp [Document.numbersAt, lacking]
  · simp [selects, lacking]

namespace Filter

/-! ### Tests of a field -/

/-- What a leaf asks of the nested elements around its field. -/
inductive FieldTest (R : Type) where
  /-- Some element passes the test. -/
  | someElement (test : Query R)
  /-- No element passes the test. -/
  | noElement (test : Query R)
  /-- Some element passes the first test, or none passes the second. -/
  | someOrNoElement (test absence : Query R)

namespace FieldTest

/-- The clause of a test inside the scopes that are opened for it. -/
def within (scopes : List String) : FieldTest R → Query R
  | someElement test => .nestedIn scopes test
  | noElement test => .noneOf (.nestedIn scopes test)
  | someOrNoElement test absence =>
    .anyOf [.nestedIn scopes test, .noneOf (.nestedIn scopes absence)]

/-- The tests are about a field. -/
def About (field : String) : FieldTest R → Prop
  | someElement test => test.testedField? = some field
  | noElement test => test.testedField? = some field
  | someOrNoElement test absence => test.testedField? = some field ∧ absence.testedField? = some field

/-- Some value of a field is a text, the alias standing for none. -/
def equals (missingAlias : Option String) (field text : String) : FieldTest R :=
  if missingAlias = some text then .noElement (.present field) else .someElement (.term field (.str text))

/-- No value of a field is a text, the alias standing for none. -/
def differs (missingAlias : Option String) (field text : String) : FieldTest R :=
  if missingAlias = some text then .someElement (.present field) else .noElement (.term field (.str text))

/-- Some value of a field is among texts, the alias standing for none. -/
def listed (missingAlias : Option String) (field : String) (texts : List String) : FieldTest R :=
  let stored := texts.filter fun s => missingAlias ≠ some s
  if stored.length = texts.length then .someElement (.terms field stored)
  else if stored.isEmpty then .noElement (.present field)
  else .someOrNoElement (.terms field stored) (.present field)

variable (missingAlias : Option String) (field text : String) (texts : List String)

theorem within_equals (scopes : List String) :
    (equals missingAlias field text : FieldTest R).within scopes =
      if missingAlias = some text then .noneOf (.nestedIn scopes (.present field))
      else .nestedIn scopes (.term field (.str text)) := by
  unfold equals
  split <;> rfl

theorem within_differs (scopes : List String) :
    (differs missingAlias field text : FieldTest R).within scopes =
      if missingAlias = some text then .nestedIn scopes (.present field)
      else .noneOf (.nestedIn scopes (.term field (.str text))) := by
  unfold differs
  split <;> rfl

theorem within_listed (scopes : List String) :
    (listed missingAlias field texts : FieldTest R).within scopes =
      membership missingAlias scopes field texts := by
  unfold listed membership
  dsimp only
  split_ifs <;> rfl

theorem about_equals : (equals missingAlias field text : FieldTest R).About field := by
  unfold equals
  split <;> rfl

theorem about_differs : (differs missingAlias field text : FieldTest R).About field := by
  unfold differs
  split <;> rfl

theorem about_listed : (listed missingAlias field texts : FieldTest R).About field := by
  unfold listed
  dsimp only
  split_ifs
  · rfl
  · rfl
  · exact ⟨rfl, rfl⟩

variable [Scalar R] (doc : Json R)

theorem selects_equals :
    ((equals missingAlias field text).within []).selects doc = hasText missingAlias doc field text := by
  rw [within_equals, hasText]
  split <;> simp [Query.nestedIn, Query.selects]

theorem selects_differs :
    ((differs missingAlias field text).within []).selects doc = !hasText missingAlias doc field text := by
  rw [within_differs, hasText]
  split <;> simp [Query.nestedIn, Query.selects]

theorem selects_listed :
    ((listed missingAlias field texts).within []).selects doc =
      texts.any (hasText missingAlias doc field) := by
  rw [within_listed, Bool.eq_iff_iff, selects_membership_iff, List.any_eq_true]
  simp only [narrowings, List.mem_singleton, exists_eq_left, forall_eq]
  constructor
  · rintro (⟨v, stored, s, listed, apart, equal⟩ | ⟨⟨a, listed, aliased⟩, lacking⟩)
    · refine ⟨s, listed, ?_⟩
      rw [hasText, if_neg apart, List.any_eq_true]
      exact ⟨v, stored, equal⟩
    · refine ⟨a, listed, ?_⟩
      rw [hasText, if_pos aliased, lacking]
      rfl
  · rintro ⟨s, listed, held⟩
    rw [hasText] at held
    split at held
    next aliased => exact .inr ⟨⟨s, listed, aliased⟩, List.isEmpty_iff.mp held⟩
    next apart =>
      obtain ⟨v, stored, equal⟩ := List.any_eq_true.mp held
      exact .inl ⟨v, stored, s, listed, apart, equal⟩

end FieldTest

/-! ### Leaves that take part -/

mutual

/-- A filter takes part when a leaf of it does. -/
theorem contributes_eq_any_leaves (dropped : Option String) :
    (f : Filter R) → f.contributes dropped = f.leaves.any (·.contributes dropped)
  | .allOf children => by
    rw [contributes, leaves]
    exact anyContributes_eq_any_leaves dropped children
  | .anyOf children => by
    rw [contributes, leaves]
    exact anyContributes_eq_any_leaves dropped children
  | .compare _ _ _ => by simp [leaves]
  | .missing _ => by simp [leaves]
  | .search _ _ => by simp [leaves]

theorem anyContributes_eq_any_leaves (dropped : Option String) :
    (children : List (Filter R)) →
      anyContributes dropped children = (leaves.leavesOf children).any (·.contributes dropped)
  | [] => rfl
  | child :: rest => by
    rw [anyContributes, leaves.leavesOf, List.any_append, contributes_eq_any_leaves dropped child,
      anyContributes_eq_any_leaves dropped rest]

end

/-! ### Comparisons -/

variable [Scalar R]

/-- An operand that is read makes one test, whatever the scopes. -/
theorem exists_test_of_bind {α : Type} {operand : Except QueryError α} {field : String}
    (test : α → FieldTest R) {clause : List String → α → Query R} {meaning : Json R → α → Bool}
    {scopes : List String} {q : Query R}
    (compiled : (operand >>= fun a => pure (clause scopes a)) = .ok q)
    (shape : ∀ scopes a, (test a).within scopes = clause scopes a) (about : ∀ a, (test a).About field)
    (means : ∀ a doc, ((test a).within []).selects doc = meaning doc a) :
    ∃ test : FieldTest R, test.About field ∧
      (∀ scopes, (operand >>= fun a => pure (clause scopes a)) = .ok (test.within scopes)) ∧
      ∀ doc, (test.within []).selects doc = operand.toOption.any (meaning doc) := by
  obtain ⟨a, rfl, -⟩ := bind_eq_ok_iff.mp compiled
  exact ⟨test a, about a, fun scopes => congrArg _ (shape scopes a).symm, means a⟩

/-- A comparison compiles to one test of its field, whatever the scopes, and outside nested objects the
test holds where the comparison does. -/
theorem exists_test_of_compileCompare {missingAlias : Option String} {op : Operator} {f : Field}
    {operand : Json R} {scopes : List String} {q : Query R}
    (compiled : compileCompare missingAlias op f operand scopes = .ok q) :
    ∃ test : FieldTest R, test.About f.name ∧
      (∀ scopes, compileCompare missingAlias op f operand scopes = .ok (test.within scopes)) ∧
      ∀ doc, (test.within []).selects doc = compares missingAlias doc op f operand := by
  unfold compileCompare compares at *
  revert compiled
  cases f.kind with
  | text =>
    cases op with
    | eq =>
      intro compiled
      exact exists_test_of_bind (.equals missingAlias f.name) compiled
        (fun scopes s => FieldTest.within_equals missingAlias f.name s scopes)
        (FieldTest.about_equals missingAlias f.name) fun s doc => FieldTest.selects_equals _ _ s doc
    | ne =>
      intro compiled
      exact exists_test_of_bind (.differs missingAlias f.name) compiled
        (fun scopes s => FieldTest.within_differs missingAlias f.name s scopes)
        (FieldTest.about_differs missingAlias f.name) fun s doc => FieldTest.selects_differs _ _ s doc
    | among =>
      intro compiled
      exact exists_test_of_bind (.listed missingAlias f.name) compiled
        (fun scopes texts => FieldTest.within_listed missingAlias f.name texts scopes)
        (FieldTest.about_listed missingAlias f.name) fun texts doc => FieldTest.selects_listed _ _ texts doc
    | range b => intro refused; cases refused
  | numeric =>
    cases op with
    | eq =>
      intro compiled
      exact exists_test_of_bind (fun n => .someElement (.term f.name n)) compiled (fun _ _ => rfl)
        (fun _ => rfl) fun _ _ => rfl
    | ne =>
      intro compiled
      exact exists_test_of_bind (fun n => .noElement (.term f.name n)) compiled (fun _ _ => rfl)
        (fun _ => rfl) fun _ _ => rfl
    | among => intro refused; cases refused
    | range b =>
      intro compiled
      obtain ⟨test, about, shape, means⟩ :=
        exists_test_of_bind (fun n => .someElement (.range f.name b n)) compiled (fun _ _ => rfl)
          (fun _ => rfl) fun n doc => Query.selects_range f.name b n doc
      refine ⟨test, about, shape, fun doc => (means doc).trans ?_⟩
      exact Option.any_bind.symm

/-! ### Leaves -/

omit [Scalar R] in
theorem Target.field?_of_field {t : Target} {name : String} {f : Field} (h : t.field name = .ok f) :
    t.schema.field? name = some f := by
  unfold Target.field at h
  split at h
  next found =>
    cases h
    exact found
  next => cases h

omit [Scalar R] in
/-- The field that a leaf tests. -/
def testedField? : Filter R → Option String
  | .compare _ field _ => some field
  | .missing field => some field
  | _ => none

omit [Scalar R] in
theorem leaves_of_testedField? {leaf : Filter R} {name : String} (tests : leaf.testedField? = some name) :
    leaf.leaves = [leaf] := by
  cases leaf with
  | compare _ _ _ => rfl
  | missing _ => rfl
  | _ => cases tests

/-- What is left out makes no difference to the truth of a leaf. -/
theorem holds_of_testedField? {leaf : Filter R} {name : String} (tests : leaf.testedField? = some name)
    (t : Target) (dropped dropped' : Option String) (doc : Json R) :
    leaf.holds t dropped doc = leaf.holds t dropped' doc := by
  cases leaf with
  | compare _ _ _ => rfl
  | missing _ => rfl
  | _ => cases tests

/-- A leaf compiles to one test of its field, wherever it stands; what the scopes around it leave of the
field's path is opened for the test. Outside nested objects the test holds where the leaf does. -/
theorem exists_test_of_compileWithin {t : Target} {dropped : Option String} {leaf : Filter R}
    {name : String} (tests : leaf.testedField? = some name) {opened : List String} {q : Query R}
    (compiled : compileWithin t dropped leaf opened = .ok (some q)) :
    ∃ (f : Field) (test : FieldTest R), t.schema.field? name = some f ∧ test.About f.name ∧
      (∀ opened, compileWithin t dropped leaf opened =
        .ok (some (test.within (unopened f.nestedPath opened)))) ∧
      ∀ doc, (test.within []).selects doc = leaf.holds t dropped doc := by
  cases leaf with
  | compare op field operand =>
    cases tests
    rw [compileWithin] at compiled
    split at compiled
    · cases compiled
    next kept =>
      obtain ⟨f, found, compiled⟩ := bind_eq_ok_iff.mp compiled
      obtain ⟨clause, compared, -⟩ := bind_eq_ok_iff.mp compiled
      obtain ⟨test, about, shape, means⟩ := exists_test_of_compileCompare compared
      have field := Target.field?_of_field found
      refine ⟨f, test, field, about, fun opened => ?_, fun doc => ?_⟩
      · rw [compileWithin, if_neg kept, found]
        exact congrArg (· >>= fun clause => .ok (some clause)) (shape _)
      · rw [means, holds, field, Option.any_some]
  | missing field =>
    cases tests
    rw [compileWithin] at compiled
    split at compiled
    · cases compiled
    next kept =>
      obtain ⟨f, found, -⟩ := bind_eq_ok_iff.mp compiled
      have field := Target.field?_of_field found
      refine ⟨f, .noElement (.present f.name), field, rfl, fun opened => ?_, fun doc => ?_⟩
      · rw [compileWithin, if_neg kept, found]
        rfl
      · rw [Schema.name_of_field? field, holds]
        simp [FieldTest.within, Query.nestedIn]
  | _ => cases tests

omit [Scalar R] in
theorem Target.searchTargets_eq {t : Target} {names targets : List String}
    (h : t.searchTargets names = .ok targets) : targets = names := by
  induction names generalizing targets with
  | nil =>
    cases h
    rfl
  | cons name rest ih =>
    obtain ⟨target, first, h⟩ := bind_eq_ok_iff.mp h
    obtain ⟨others, further, same⟩ := bind_eq_ok_iff.mp h
    cases same
    rw [ih further]
    refine congrArg (· :: rest) ?_
    unfold Target.searchTarget at first
    split at first
    next f found =>
      split at first
      · cases first
        exact Schema.name_of_field? found
      · cases first
    next => cases first

omit [Scalar R] in
/-- The clause of a keyword search that is not blank, from the fields it looks in. -/
theorem compileSearch_of_worded {t : Target} {keyword : String} (worded : Text.isBlank keyword = false)
    (fields : List String) :
    (compileSearch t keyword fields : Except QueryError (Option (Query R))) =
      (if fields.isEmpty then .ok t.schema.searchableFields else t.searchTargets fields) >>= fun targets =>
        if targets.isEmpty then .error (.invalidFilter (.nothingSearchable t.schema.index))
        else .ok (some (.multiMatch keyword (targets.map fun f => f ++ "." ++ t.analyzedSuffix))) := by
  rw [compileSearch, if_neg (Bool.eq_false_iff.mp worded)]
  have found (targets : List String) : (do
        if targets.isEmpty then throw (.invalidFilter (.nothingSearchable t.schema.index))
        return some (.multiMatch keyword (targets.map fun f => f ++ "." ++ t.analyzedSuffix)) :
          Except QueryError (Option (Query R))) =
      if targets.isEmpty then .error (.invalidFilter (.nothingSearchable t.schema.index))
      else .ok (some (.multiMatch keyword (targets.map fun f => f ++ "." ++ t.analyzedSuffix))) := by
    split <;> rfl
  by_cases all : fields.isEmpty = true
  · rw [if_pos all, if_pos all]
    exact bind_congr found
  · rw [if_neg all, if_neg all]
    exact bind_congr found

/-- A keyword search looks for the keyword in the fields it names, or in all that are searchable. -/
theorem exists_multiMatch_of_compileSearch {t : Target} {keyword : String} {fields : List String}
    {q : Option (Query R)} (worded : Text.isBlank keyword = false)
    (compiled : compileSearch t keyword fields = .ok q) :
    ∃ analyzed, q = some (.multiMatch keyword analyzed) ∧
      ∀ doc : Json R, (Query.multiMatch keyword analyzed).selects doc = finds t doc keyword fields := by
  rw [compileSearch_of_worded worded] at compiled
  obtain ⟨targets, listed, compiled⟩ := bind_eq_ok_iff.mp compiled
  have named : targets = if fields.isEmpty then t.schema.searchableFields else fields := by
    split at listed
    next all =>
      cases listed
      rw [if_pos all]
    next some =>
      rw [if_neg some]
      exact Target.searchTargets_eq listed
  split at compiled
  · cases compiled
  · cases compiled
    refine ⟨_, rfl, fun doc => ?_⟩
    simp only [Query.selects_multiMatch, List.any_map, finds, named, Function.comp_def]

/-! ### Combinations -/

omit [Scalar R] in
/-- The clause of a combination, from the clauses of its children. -/
def group (combine : List (Query R) → Query R) (paths : List String) (clauses : List (Query R)) :
    Option (Query R) :=
  if clauses.isEmpty then none else some (.nestedIn paths (combine clauses))

omit [Scalar R] in
theorem isSome_group (combine : List (Query R) → Query R) (paths : List String) (clauses : List (Query R)) :
    (group combine paths clauses).isSome = !clauses.isEmpty := by
  cases clauses <;> rfl

omit [Scalar R] in
theorem group_eq_some_iff {combine : List (Query R) → Query R} {paths : List String}
    {clauses : List (Query R)} {q : Query R} :
    group combine paths clauses = some q ↔ clauses ≠ [] ∧ .nestedIn paths (combine clauses) = q := by
  cases clauses <;> simp [group]

variable {t : Target} {dropped : Option String}

theorem compileWithin_allOf_eq_ok_iff {children : List (Filter R)} {opened : List String}
    {q : Option (Query R)} :
    compileWithin t dropped (.allOf children) opened = .ok q ↔ ∃ clauses,
      compileEach t dropped children (scopesFor (nestedScopesAll t dropped children) opened) = .ok clauses ∧
        group .allOf (unopened (scopesFor (nestedScopesAll t dropped children) opened) opened) clauses = q :=
  map_eq_ok_iff

theorem compileWithin_anyOf_eq_ok_iff {children : List (Filter R)} {opened : List String}
    {q : Option (Query R)} :
    compileWithin t dropped (.anyOf children) opened = .ok q ↔ ∃ clauses,
      compileEach t dropped children (scopesFor (nestedScopesAll t dropped children) opened) = .ok clauses ∧
        group .anyOf (unopened (scopesFor (nestedScopesAll t dropped children) opened) opened) clauses = q :=
  map_eq_ok_iff

theorem compileEach_cons_eq_ok_iff {child : Filter R} {rest : List (Filter R)} {opened : List String}
    {clauses : List (Query R)} :
    compileEach t dropped (child :: rest) opened = .ok clauses ↔
      ∃ clause, compileWithin t dropped child opened = .ok clause ∧
        ∃ others, compileEach t dropped rest opened = .ok others ∧ clause.toList ++ others = clauses := by
  simp only [compileEach, bind_eq_ok_iff, pure, Except.pure, Except.ok.injEq]

/-! ### Taking part -/

mutual

/-- What takes part compiles to a clause, and nothing else does. -/
theorem isSome_of_compileWithin : (f : Filter R) → {opened : List String} → {q : Option (Query R)} →
    compileWithin t dropped f opened = .ok q → q.isSome = f.contributes dropped
  | .allOf children, opened, q, compiled => by
    obtain ⟨clauses, each, rfl⟩ := compileWithin_allOf_eq_ok_iff.mp compiled
    rw [isSome_group, contributes, isEmpty_of_compileEach children each, Bool.not_not]
  | .anyOf children, opened, q, compiled => by
    obtain ⟨clauses, each, rfl⟩ := compileWithin_anyOf_eq_ok_iff.mp compiled
    rw [isSome_group, contributes, isEmpty_of_compileEach children each, Bool.not_not]
  | .compare op field operand, opened, q, compiled => by
    rw [compileWithin] at compiled
    split at compiled
    next left =>
      cases compiled
      simp [contributes, left]
    next kept =>
      obtain ⟨f, -, compiled⟩ := bind_eq_ok_iff.mp compiled
      obtain ⟨clause, -, same⟩ := bind_eq_ok_iff.mp compiled
      cases same
      simp [contributes, kept]
  | .missing field, opened, q, compiled => by
    rw [compileWithin] at compiled
    split at compiled
    next left =>
      cases compiled
      simp [contributes, left]
    next kept =>
      obtain ⟨f, -, same⟩ := bind_eq_ok_iff.mp compiled
      cases same
      simp [contributes, kept]
  | .search keyword fields, opened, q, compiled => by
    rw [compileWithin] at compiled
    cases worded : Text.isBlank keyword with
    | true =>
      rw [compileSearch, if_pos worded] at compiled
      cases compiled
      simp [contributes, worded]
    | false =>
      obtain ⟨analyzed, rfl, -⟩ := exists_multiMatch_of_compileSearch worded compiled
      simp [contributes, worded]

theorem isEmpty_of_compileEach : (children : List (Filter R)) → {opened : List String} →
    {clauses : List (Query R)} → compileEach t dropped children opened = .ok clauses →
      clauses.isEmpty = !anyContributes dropped children
  | [], _, _, compiled => by
    cases compiled
    rfl
  | child :: rest, opened, clauses, compiled => by
    obtain ⟨clause, first, others, further, rfl⟩ := compileEach_cons_eq_ok_iff.mp compiled
    have own := isSome_of_compileWithin child first
    rw [anyContributes, Bool.not_or, ← own, ← isEmpty_of_compileEach rest further]
    cases clause <;> rfl

end

/-- A keyword search that takes part looks for the keyword in text fields. -/
theorem exists_multiMatch_of_compileWithin {keyword : String} {fields : List String} {opened : List String}
    {q : Query R} (compiled : compileWithin t dropped (.search keyword fields) opened = .ok (some q)) :
    Text.isBlank keyword = false ∧ ∃ analyzed, q = .multiMatch keyword analyzed ∧
      ∀ doc : Json R, q.selects doc = finds t doc keyword fields := by
  have part : (!Text.isBlank keyword) = true := (isSome_of_compileWithin _ compiled).symm
  have worded : Text.isBlank keyword = false := by simpa using part
  obtain ⟨analyzed, found, means⟩ := exists_multiMatch_of_compileSearch worded compiled
  cases found
  exact ⟨worded, analyzed, rfl, means⟩

/-! ### A filter by itself -/

omit [Scalar R] in
/-- The field whose leaves a compilation leaves out. -/
def leftOut (excludeField : Option String) (filterSelf : Bool) : Option String :=
  if filterSelf then none else excludeField

/-- Without a restriction beside it, a filter compiles to its own clause. -/
theorem compile_alone (t : Target) (f : Filter R) (excludeField : Option String) (filterSelf : Bool) :
    compile t (some f) excludeField filterSelf none =
      compileWithin t (leftOut excludeField filterSelf) f [] := by
  rw [compile_eq, compileOptional, compileOptional, ← leftOut]
  cases compileWithin t (leftOut excludeField filterSelf) f [] with
  | error e => rfl
  | ok own => cases own <;> rfl

end Filter

end TieredSearch
