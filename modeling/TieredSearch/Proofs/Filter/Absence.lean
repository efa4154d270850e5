import TieredSearch.Proofs.Filter.Clauses
import TieredSearch.Proofs.Filter.SameElement
import Mathlib.Data.List.Forall2

/-!
# No clause rather than an empty one

An empty combination of clauses selects every document, so a filter without anything to say must compile to no
clause at all. What a filter compiles to is compared with the filter node by node (`Mirrors`): a combination
becomes a combination of as many clauses as it has children that take part, one for each of them and in their
order, and never of none.

* `IsProper` says of a clause, in the JSON it is sent as, that every combination anywhere in it has clauses to
  combine, and that of alternatives one must hold. It follows from there being no empty combination
  (`isProper_toJson`).
* Main statement (`absent_or_proper_of_compile`): a filter and a restriction that compile come to no query
  exactly when no leaf of either takes part, and otherwise to a proper query that mirrors the two of them.
-/

namespace TieredSearch

variable {R : Type}

/-! ### Combinations in JSON -/

/-- A member that is found is there. -/
theorem Json.mem_of_lookup {key : String} {value : Json R} {members : List (String × Json R)}
    (found : lookup key members = some value) : (key, value) ∈ members := by
  induction members with
  | nil => cases found
  | cons member rest ih =>
    rw [lookup] at found
    split at found
    next same =>
      cases found
      exact same ▸ List.mem_cons_self
    next => exact List.mem_cons_of_mem _ (ih found)

namespace Query

/-- `Within part whole`: a clause stands somewhere in another one, both in JSON. -/
inductive Within (part : Json R) : Json R → Prop where
  /-- It is the other one. -/
  | whole : Within part part
  /-- It stands in an entry of a combination. -/
  | entry {whole body entry : Json R} {entries : List (Json R)} {key : String}
      (combination : whole.get? "bool" = some body) (list : body.get? key = some (.arr entries))
      (member : entry ∈ entries) (inside : Within part entry) : Within part whole
  /-- It stands in the clause of a nested scope. -/
  | scope {whole body clause : Json R} (nested : whole.get? "nested" = some body)
      (query : body.get? "query" = some clause) (inside : Within part clause) : Within part whole

/-- What the body of a combination has. -/
structure Combines (body : Json R) : Prop where
  /-- There is a list of clauses. -/
  lists : ∃ key entries, body.get? key = some (.arr entries)
  /-- No list is empty. -/
  filled : ∀ key, body.get? key ≠ some (.arr [])
  /-- Of alternatives, one must hold. -/
  alternatives : ∀ entries, body.get? "should" = some entries → body.get? "minimum_should_match" = some (.int 1)

/-- Every combination that stands in a clause combines clauses. -/
def IsProper (json : Json R) : Prop :=
  ∀ part, Within part json → ∀ body, part.get? "bool" = some body → Combines body

namespace IsProper

/-- A test has no combination in it. -/
theorem of_test {json : Json R} (noCombination : json.get? "bool" = none) (noScope : json.get? "nested" = none) :
    IsProper json := by
  intro part inside body combination
  cases inside with
  | whole => cases noCombination.symm.trans combination
  | entry combination' _ _ _ => cases noCombination.symm.trans combination'
  | scope nested _ _ => cases noScope.symm.trans nested

/-- A combination of proper clauses, in lists none of which is empty. -/
theorem of_combination {members : List (String × Json R)}
    (lists : ∃ key entries, Json.lookup key members = some (.arr entries))
    (each : ∀ key entries, (key, .arr entries) ∈ members → entries ≠ [] ∧ ∀ entry ∈ entries, IsProper entry)
    (alternatives : ∀ entries, Json.lookup "should" members = some entries →
      Json.lookup "minimum_should_match" members = some (.int 1)) :
    IsProper (.obj [("bool", .obj members)]) := by
  intro part inside body combination
  cases inside with
  | whole =>
    cases combination
    exact ⟨lists, fun key empty => (each key [] (Json.mem_of_lookup empty)).1 rfl, alternatives⟩
  | entry combination' list member inside =>
    cases combination'
    exact (each _ _ (Json.mem_of_lookup list)).2 _ member part inside body combination
  | scope nested _ _ => cases nested

/-- A proper clause in a nested scope. -/
theorem of_scope {path : String} {clause : Json R} (proper : IsProper clause) :
    IsProper (.obj [("nested", .obj [("path", .str path), ("query", clause)])]) := by
  intro part inside body combination
  cases inside with
  | whole => cases combination
  | entry combination' _ _ _ => cases combination'
  | scope nested query inside =>
    cases nested
    cases query
    exact proper part inside body combination

variable {entries : List (Json R)} (filled : entries ≠ []) (proper : ∀ entry ∈ entries, IsProper entry)

include filled proper

/-- Clauses that must all hold. -/
theorem of_must : IsProper (mustJson entries) := by
  refine of_combination ⟨"must", entries, rfl⟩ (fun key entries' member => ?_) fun _ absent => ?_
  · cases List.mem_singleton.mp member
    exact ⟨filled, proper⟩
  · cases absent

/-- Clauses of which one must hold. -/
theorem of_should : IsProper (shouldJson entries) := by
  refine of_combination ⟨"should", entries, rfl⟩ (fun key entries' member => ?_) fun _ _ => rfl
  rcases List.mem_pair.mp member with same | same
  · cases same
    exact ⟨filled, proper⟩
  · cases same

/-- Clauses that must not hold. -/
theorem of_mustNot : IsProper (.obj [("bool", .obj [("must_not", .arr entries)])]) := by
  refine of_combination ⟨"must_not", entries, rfl⟩ (fun key entries' member => ?_) fun _ absent => ?_
  · cases List.mem_singleton.mp member
    exact ⟨filled, proper⟩
  · cases absent

end IsProper

theorem toJsons_ne_nil {clauses : List (Query R)} (some : clauses.isEmpty = false) : toJsons clauses ≠ [] := by
  cases clauses with
  | nil => cases some
  | cons clause rest => exact List.cons_ne_nil _ _

mutual

/-- Where no combination is empty, the JSON is proper. -/
theorem isProper_toJson : (q : Query R) → q.isFull = true → IsProper q.toJson
  | .allOf clauses, full => by
    rw [isFull, Bool.and_eq_true, Bool.not_eq_true'] at full
    exact .of_must (toJsons_ne_nil full.1) (isProper_toJsons clauses full.2)
  | .anyOf clauses, full => by
    rw [isFull, Bool.and_eq_true, Bool.not_eq_true'] at full
    exact .of_should (toJsons_ne_nil full.1) (isProper_toJsons clauses full.2)
  | .noneOf clause, full =>
    .of_mustNot (List.cons_ne_nil _ _) (List.forall_mem_singleton.mpr (isProper_toJson clause full))
  | .nested _ clause, full => .of_scope (isProper_toJson clause full)
  | .term _ _, _ => .of_test rfl rfl
  | .terms _ _, _ => .of_test rfl rfl
  | .range _ _ _, _ => .of_test rfl rfl
  | .present _, _ => .of_test rfl rfl
  | .multiMatch _ _, _ => .of_test rfl rfl

theorem isProper_toJsons : (clauses : List (Query R)) → areFull clauses = true →
    ∀ json ∈ toJsons clauses, IsProper json
  | [], _, _, h => by cases h
  | clause :: rest, full, json, h => by
    rw [areFull, Bool.and_eq_true] at full
    rcases List.mem_cons.mp h with rfl | h
    · exact isProper_toJson clause full.1
    · exact isProper_toJsons rest full.2 json h

end

/-! ### Clauses without an empty combination -/

@[simp] theorem isFull_nestedIn (paths : List String) (q : Query R) : (nestedIn paths q).isFull = q.isFull := by
  induction paths with
  | nil => rfl
  | cons path paths ih => exact ih

theorem isFull_of_testedField? {test : Query R} {field : String} (tested : test.testedField? = some field) :
    test.isFull = true := by
  cases test <;> cases tested <;> rfl

theorem areFull_append (clauses clauses' : List (Query R)) :
    areFull (clauses ++ clauses') = (areFull clauses && areFull clauses') := by
  induction clauses with
  | nil => rfl
  | cons clause rest ih => rw [List.cons_append, areFull, areFull, ih, Bool.and_assoc]

end Query

namespace Filter

theorem FieldTest.isFull_within {test : FieldTest R} {field : String} (about : test.About field)
    (scopes : List String) : (test.within scopes).isFull = true := by
  cases test with
  | someElement test =>
    rw [within, Query.isFull_nestedIn]
    exact Query.isFull_of_testedField? about
  | noElement test =>
    rw [within, Query.isFull, Query.isFull_nestedIn]
    exact Query.isFull_of_testedField? about
  | someOrNoElement test absence =>
    simp [within, Query.isFull, Query.areFull, Query.isFull_of_testedField? about.1,
      Query.isFull_of_testedField? about.2]

/-! ### Node by node -/

/-- `Mirrors dropped f q`: the clause has a combination for each combination of the filter, of one clause for
each child that takes part. -/
inductive Mirrors (dropped : Option String) : Filter R → Query R → Prop where
  /-- A leaf and its clause. -/
  | leaf {leaf : Filter R} {q : Query R} (single : leaf.isCombination = false) : Mirrors dropped leaf q
  /-- The children that take part must all hold. -/
  | allOf {children : List (Filter R)} {clauses : List (Query R)} (paths : List String) (some : clauses ≠ [])
      (count : clauses.length = (children.filter (·.contributes dropped)).length)
      (each : List.Forall₂ (Mirrors dropped) (children.filter (·.contributes dropped)) clauses) :
      Mirrors dropped (.allOf children) (.nestedIn paths (.allOf clauses))
  /-- One of the children that take part must hold. -/
  | anyOf {children : List (Filter R)} {clauses : List (Query R)} (paths : List String) (some : clauses ≠ [])
      (count : clauses.length = (children.filter (·.contributes dropped)).length)
      (each : List.Forall₂ (Mirrors dropped) (children.filter (·.contributes dropped)) clauses) :
      Mirrors dropped (.anyOf children) (.nestedIn paths (.anyOf clauses))

variable [Scalar R] {t : Target} {dropped : Option String}

/-- A leaf compiles to a clause without an empty combination. -/
theorem mirrors_of_leaf {leaf : Filter R} {name : String} (tests : leaf.testedField? = some name)
    {opened : List String} {q : Query R} (compiled : compileWithin t dropped leaf opened = .ok (some q)) :
    q.isFull = true ∧ Mirrors dropped leaf q := by
  obtain ⟨f, test, -, about, shape, -⟩ := exists_test_of_compileWithin tests compiled
  cases compiled.symm.trans (shape opened)
  refine ⟨FieldTest.isFull_within about _, .leaf ?_⟩
  cases leaf <;> cases tests <;> rfl

mutual

/-- A filter that compiles to a clause is mirrored by it, and no combination in it is empty. -/
theorem mirrors_of_compileWithin : (f : Filter R) → {opened : List String} → {q : Query R} →
    compileWithin t dropped f opened = .ok (some q) → q.isFull = true ∧ Mirrors dropped f q
  | .allOf children, opened, q, compiled => by
    obtain ⟨clauses, each, grouped⟩ := compileWithin_allOf_eq_ok_iff.mp compiled
    obtain ⟨some, rfl⟩ := group_eq_some_iff.mp grouped
    obtain ⟨full, each⟩ := mirrors_of_compileEach children each
    rw [Query.isFull_nestedIn, Query.isFull, full, List.isEmpty_eq_false_iff.mpr some]
    exact ⟨rfl, .allOf _ some each.length_eq.symm each⟩
  | .anyOf children, opened, q, compiled => by
    obtain ⟨clauses, each, grouped⟩ := compileWithin_anyOf_eq_ok_iff.mp compiled
    obtain ⟨some, rfl⟩ := group_eq_some_iff.mp grouped
    obtain ⟨full, each⟩ := mirrors_of_compileEach children each
    rw [Query.isFull_nestedIn, Query.isFull, full, List.isEmpty_eq_false_iff.mpr some]
    exact ⟨rfl, .anyOf _ some each.length_eq.symm each⟩
  | .compare _ _ _, _, _, compiled => mirrors_of_leaf rfl compiled
  | .missing _, _, _, compiled => mirrors_of_leaf rfl compiled
  | .search _ _, _, _, compiled => by
    obtain ⟨-, analyzed, rfl, -⟩ := exists_multiMatch_of_compileWithin compiled
    exact ⟨rfl, .leaf rfl⟩

/-- Of several filters, those that take part are mirrored by the clauses in their order. -/
theorem mirrors_of_compileEach : (children : List (Filter R)) → {opened : List String} →
    {clauses : List (Query R)} → compileEach t dropped children opened = .ok clauses →
      Query.areFull clauses = true ∧
        List.Forall₂ (Mirrors dropped) (children.filter (·.contributes dropped)) clauses
  | [], _, _, compiled => by
    cases compiled
    exact ⟨rfl, .nil⟩
  | child :: rest, opened, clauses, compiled => by
    obtain ⟨clause, first, others, further, rfl⟩ := compileEach_cons_eq_ok_iff.mp compiled
    obtain ⟨full, each⟩ := mirrors_of_compileEach rest further
    have part := isSome_of_compileWithin child first
    cases clause with
    | none =>
      rw [List.filter_cons_of_neg (by simp [← part])]
      exact ⟨full, each⟩
    | some q =>
      obtain ⟨own, mirrors⟩ := mirrors_of_compileWithin child first
      rw [List.filter_cons_of_pos (by simp [← part]), Query.areFull_append, full]
      exact ⟨by simp [Query.areFull, own], .cons mirrors each⟩

end

/-! ### Filter and restriction -/

omit [Scalar R] in
/-- A keyword search with nothing to look for. -/
def isBlankSearch : Filter R → Bool
  | .search keyword _ => Text.isBlank keyword
  | _ => false

omit [Scalar R] in
/-- A leaf takes no part when it is a blank search or on the field that is left out. -/
theorem contributes_leaf_eq_false_iff {leaf : Filter R} (single : leaf.isCombination = false) :
    leaf.contributes dropped = false ↔
      leaf.isBlankSearch = true ∨ ∃ field, dropped = some field ∧ leaf.testedField? = some field := by
  cases leaf with
  | allOf _ => cases single
  | anyOf _ => cases single
  | compare _ field _ => simp [contributes, isBlankSearch, testedField?]
  | missing field => simp [contributes, isBlankSearch, testedField?]
  | search keyword _ => simp [contributes, isBlankSearch, testedField?]

omit [Scalar R] in
mutual

theorem single_of_mem_leaves : (f : Filter R) → ∀ leaf ∈ f.leaves, leaf.isCombination = false
  | .allOf children => single_of_mem_leavesOf children
  | .anyOf children => single_of_mem_leavesOf children
  | .compare _ _ _ => List.forall_mem_singleton.mpr rfl
  | .missing _ => List.forall_mem_singleton.mpr rfl
  | .search _ _ => List.forall_mem_singleton.mpr rfl

theorem single_of_mem_leavesOf :
    (children : List (Filter R)) → ∀ leaf ∈ leaves.leavesOf children, leaf.isCombination = false
  | [], _, h => by cases h
  | child :: rest, leaf, h => by
    rcases List.mem_append.mp h with h | h
    · exact single_of_mem_leaves child leaf h
    · exact single_of_mem_leavesOf rest leaf h

end

omit [Scalar R] in
/-- A filter takes no part when each of its leaves is a blank search or on the field that is left out. -/
theorem contributes_eq_false_iff {f : Filter R} : f.contributes dropped = false ↔
    ∀ leaf ∈ f.leaves,
      leaf.isBlankSearch = true ∨ ∃ field, dropped = some field ∧ leaf.testedField? = some field := by
  rw [contributes_eq_any_leaves, List.any_eq_false]
  refine forall₂_congr fun leaf member => ?_
  rw [Bool.not_eq_true, contributes_leaf_eq_false_iff (single_of_mem_leaves f leaf member)]

/-- A filter that may be absent compiles to none when it takes no part. -/
theorem eq_none_iff_of_compileOptional {f : Option (Filter R)} {q : Option (Query R)}
    (compiled : compileOptional t dropped f = .ok q) :
    q = none ↔ ∀ e ∈ f, e.contributes dropped = false := by
  cases f with
  | none =>
    cases compiled
    exact iff_of_true rfl fun e he => by cases he
  | some f =>
    have part := isSome_of_compileWithin f compiled
    rw [← Option.isNone_iff_eq_none, ← Option.isSome_eq_false_iff, part]
    simp

/-- What a filter that may be absent compiles to mirrors it, without an empty combination. -/
theorem mirrors_of_compileOptional {f : Option (Filter R)} {q : Query R}
    (compiled : compileOptional t dropped f = .ok (some q)) :
    ∃ e, f = some e ∧ q.isFull = true ∧ Mirrors dropped e q := by
  cases f with
  | none => cases compiled
  | some f => exact ⟨f, rfl, mirrors_of_compileWithin f compiled⟩

omit [Scalar R] in
/-- `Joins dropped user extra q`: the clause mirrors a filter, or the restriction beside it, or asks for one
clause of each of the two. -/
inductive Joins (dropped : Option String) : Option (Filter R) → Option (Filter R) → Query R → Prop where
  /-- The restriction takes no part. -/
  | user {f : Filter R} {extra : Option (Filter R)} {q : Query R} (own : Mirrors dropped f q)
      (absent : ∀ e ∈ extra, e.contributes none = false) : Joins dropped (some f) extra q
  /-- The filter takes no part. -/
  | restriction {user : Option (Filter R)} {e : Filter R} {q : Query R}
      (absent : ∀ f ∈ user, f.contributes dropped = false) (scope : Mirrors none e q) :
      Joins dropped user (some e) q
  /-- Both take part. -/
  | both {f e : Filter R} {q q' : Query R} (own : Mirrors dropped f q) (scope : Mirrors none e q') :
      Joins dropped (some f) (some e) (.allOf [q, q'])

/-- The clause of a filter beside a restriction joins the clauses of the two, without an empty combination. -/
theorem joins_of_compile {user extra : Option (Filter R)} {excludeField : Option String} {filterSelf : Bool}
    {q : Query R} (compiled : compile t user excludeField filterSelf extra = .ok (some q)) :
    q.isFull = true ∧ Joins (leftOut excludeField filterSelf) user extra q := by
  obtain ⟨own, scope, hown, hscope, both⟩ := compile_eq_ok_iff.mp compiled
  rw [← leftOut] at hown
  cases own with
  | none =>
    cases both
    obtain ⟨e, rfl, full, mirrors⟩ := mirrors_of_compileOptional hscope
    exact ⟨full, .restriction ((eq_none_iff_of_compileOptional hown).mp rfl) mirrors⟩
  | some own =>
    obtain ⟨f, rfl, full, mirrors⟩ := mirrors_of_compileOptional hown
    cases scope with
    | none =>
      cases both
      exact ⟨full, .user mirrors ((eq_none_iff_of_compileOptional hscope).mp rfl)⟩
    | some scope =>
      cases both
      obtain ⟨e, rfl, full', mirrors'⟩ := mirrors_of_compileOptional hscope
      exact ⟨by simp [Query.isFull, Query.areFull, full, full'], .both mirrors mirrors'⟩

/-- A filter and a restriction that compile come to no query exactly when every leaf of the filter is left out
or a blank search and every leaf of the restriction is a blank search. A query that they come to asks for
something in every combination, and has one clause for each part of theirs that has anything to say. -/
theorem absent_or_proper_of_compile {user extra : Option (Filter R)} {excludeField : Option String}
    {filterSelf : Bool} {q : Option (Query R)}
    (compiled : compile t user excludeField filterSelf extra = .ok q) :
    (q = none ↔
      (∀ f ∈ user, ∀ leaf ∈ f.leaves, leaf.isBlankSearch = true ∨
        ∃ field, leftOut excludeField filterSelf = some field ∧ leaf.testedField? = some field) ∧
      ∀ e ∈ extra, ∀ leaf ∈ e.leaves, leaf.isBlankSearch = true) ∧
    ∀ clause, q = some clause →
      Query.IsProper clause.toJson ∧ Joins (leftOut excludeField filterSelf) user extra clause := by
  constructor
  · obtain ⟨own, scope, hown, hscope, both⟩ := compile_eq_ok_iff.mp compiled
    rw [← leftOut] at hown
    have absent : q = none ↔ own = none ∧ scope = none := by
      cases both
      cases own <;> cases scope <;> simp [joined]
    rw [absent, eq_none_iff_of_compileOptional hown, eq_none_iff_of_compileOptional hscope]
    -- nothing is left out of the restriction
    simp only [contributes_eq_false_iff, reduceCtorEq, false_and, exists_false, or_false]
  · rintro clause rfl
    obtain ⟨full, joins⟩ := joins_of_compile compiled
    exact ⟨Query.isProper_toJson clause full, joins⟩

end Filter

/-- Empty combinations, a blank search and an age beside a single gender. -/
def Sample.sparseFilter : Filter Rat :=
  .allOf [.anyOf [.allOf [], .search " " []], .compare .eq "age" (.int 30),
    .anyOf [.equals "gender" "male", .allOf [.search "" ["gender"]]]]

open TieredSearch.Filter in
/-- With the age left out the gender is all there is to say, in combinations of one clause each; without the
gender there is nothing. -/
theorem gender_alone_mirrored : ∃ clause : Query Rat,
    compile Sample.visitTarget (some Sample.sparseFilter) (some "age") false (some (.allOf [.anyOf []])) =
      .ok (some clause) ∧
    clause.toJson = Query.mustJson [Query.shouldJson [.obj [("term", .obj [("gender", .str "male")])]]] ∧
    Query.IsProper clause.toJson ∧ Joins (some "age") (some Sample.sparseFilter) (some (.allOf [.anyOf []])) clause := by
  obtain ⟨clause, compiled, json⟩ : ∃ clause : Query Rat,
      compile Sample.visitTarget (some Sample.sparseFilter) (some "age") false (some (.allOf [.anyOf []])) =
        .ok (some clause) ∧
      clause.toJson = Query.mustJson [Query.shouldJson [.obj [("term", .obj [("gender", .str "male")])]]] :=
    ⟨_, rfl, rfl⟩
  obtain ⟨-, proper⟩ := absent_or_proper_of_compile compiled
  exact ⟨clause, compiled, json, proper clause rfl⟩

end TieredSearch
