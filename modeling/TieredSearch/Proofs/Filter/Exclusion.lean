import TieredSearch.Filter.Meaning
import TieredSearch.Proofs.Filter.Restriction

/-!
# Leaves that are left out

A caller's filter is compiled without its leaves on one field. The clauses and the nested scopes they stand
in are computed by two recursions over the tree, and each of them passes by the same leaves: what comes out
is what the tree without these leaves (`Filter.without`) compiles to, at any depth and inside any scopes
(`Filter.compileWithin_dropped`). The restriction beside the caller's filter is compiled apart, so nothing
is ever left out of it (`Filter.compile_without_leaves`).
-/

namespace TieredSearch.Filter

variable {R : Type} [Scalar R]

/-! ### The tree without the leaves -/

/-- A comparison or a missing-field test of a field. -/
def isOn (field : String) : Filter R → Bool
  | .compare _ name _ => name = field
  | .missing name => name = field
  | _ => false

omit [Scalar R] in
mutual

/-- Gone are the leaves on the field, and no others. -/
theorem leaves_without (field : String) :
    (e : Filter R) → (e.without field).elim [] leaves = e.leaves.filter fun leaf => !leaf.isOn field
  | .allOf children => leavesOf_withoutAll field children
  | .anyOf children => leavesOf_withoutAll field children
  | .compare op name operand => by
    by_cases on : name = field <;> simp [without, leaves, isOn, on]
  | .missing name => by
    by_cases on : name = field <;> simp [without, leaves, isOn, on]
  | .search keyword fields => rfl

theorem leavesOf_withoutAll (field : String) : (children : List (Filter R)) →
    leaves.leavesOf (without.withoutAll field children) =
      (leaves.leavesOf children).filter fun leaf => !leaf.isOn field
  | [] => rfl
  | child :: rest => by
    have first := leaves_without field child
    rw [without.withoutAll, leaves.leavesOf, List.filter_append, ← first, ← leavesOf_withoutAll field rest]
    cases child.without field with
    | none => rfl
    | some child => rfl

end

/-! ### Nested scopes -/

variable (t : Target) (field : String)

omit [Scalar R] in
mutual

theorem nestedScopes_dropped :
    (e : Filter R) → nestedScopes t (some field) e = (e.without field).bind (nestedScopes t none)
  | .allOf children => nestedScopesAll_dropped children
  | .anyOf children => nestedScopesAll_dropped children
  | .compare op name operand => by
    by_cases on : name = field
    · simp [nestedScopes, without, on]
    · simp [nestedScopes, without, on, Ne.symm on]
  | .missing name => by
    by_cases on : name = field
    · simp [nestedScopes, without, on]
    · simp [nestedScopes, without, on, Ne.symm on]
  | .search keyword fields => rfl

theorem nestedScopesAll_dropped : (children : List (Filter R)) →
    nestedScopesAll t (some field) children = nestedScopesAll t none (without.withoutAll field children)
  | [] => rfl
  | child :: rest => by
    rw [nestedScopesAll, nestedScopes_dropped child, nestedScopesAll_dropped rest, without.withoutAll]
    cases child.without field with
    | none => rfl
    | some child => rfl

end

/-! ### Clauses -/

mutual

/-- Inside any scopes, a filter compiles without the leaves on a field as the tree without them does, and
to no clause where nothing is left of it. -/
theorem compileWithin_dropped : (e : Filter R) → (opened : List String) →
    compileWithin t (some field) e opened =
      (e.without field).elim (.ok none) fun e => compileWithin t none e opened
  | .allOf children, opened => by
    rw [compileWithin, nestedScopesAll_dropped, compileEach_dropped children]
    rfl
  | .anyOf children, opened => by
    rw [compileWithin, nestedScopesAll_dropped, compileEach_dropped children]
    rfl
  | .compare op name operand, opened => by
    by_cases on : name = field
    · simp [compileWithin, without, on]
    · simp [compileWithin, without, on, Ne.symm on]
  | .missing name, opened => by
    by_cases on : name = field
    · simp [compileWithin, without, on]
    · simp [compileWithin, without, on, Ne.symm on]
  | .search keyword fields, opened => rfl

theorem compileEach_dropped : (children : List (Filter R)) → (opened : List String) →
    compileEach t (some field) children opened =
      compileEach t none (without.withoutAll field children) opened
  | [], _ => rfl
  | child :: rest, opened => by
    rw [compileEach, compileWithin_dropped child opened, compileEach_dropped rest opened, without.withoutAll]
    cases child.without field with
    | none =>
      rw [Option.toList_none, List.nil_append]
      cases compileEach t none (without.withoutAll field rest) opened <;> rfl
    | some child => rfl

end

theorem compileOptional_dropped (user : Option (Filter R)) :
    compileOptional t (some field) user = compileOptional t none (user.bind (·.without field)) := by
  cases user with
  | none => rfl
  | some e =>
    rw [compileOptional, compileWithin_dropped, Option.bind_some]
    cases e.without field <;> rfl

/-! ### Filter and restriction -/

/-- A filter whose leaves on a field are left out compiles exactly as the tree without them, be it to a
query, to none or to an error. Where the filter's own leaves count, no field is left out. And whatever is
left out of the filter, the restriction beside it is compiled whole: together they admit the documents that
each of them admits by itself, and fail as the first of them that does. -/
theorem compile_without_leaves (user restriction : Option (Filter R)) :
    (∀ self, compile t user (some field) false restriction =
      compile t (user.bind (·.without field)) none self restriction) ∧
    (∀ exclude, compile t user exclude true restriction = compile t user none true restriction) ∧
    ∀ exclude self, Agree
      (fun both parts => ∀ doc, Query.admits both doc = (Query.admits parts.1 doc && Query.admits parts.2 doc))
      (compile t user exclude self restriction)
      (compile t user exclude self none >>= fun own =>
        (compile t restriction none true none).map fun scope => (own, scope)) := by
  refine ⟨fun self => ?_, fun exclude => rfl, fun exclude self => ?_⟩
  · rw [compile_eq, compile_eq, if_neg Bool.false_ne_true, compileOptional_dropped, ite_self]
  · rw [compile_eq, compile_eq t user, compile_eq t restriction, if_pos rfl]
    cases compileOptional t (if self then none else exclude) user with
    | error e => exact .error e
    | ok own =>
      cases compileOptional t none restriction with
      | error e => exact .error e
      | ok scope =>
        refine Agree.ok fun doc => ?_
        rw [admits_joined, admits_joined, admits_joined]
        simp

end TieredSearch.Filter
