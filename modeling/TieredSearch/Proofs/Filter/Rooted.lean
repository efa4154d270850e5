import TieredSearch.Proofs.Filter.Restriction

/-!
# Restrictions outside nested objects

The restrictions of a scope speak about a field outside nested objects, some of them beside a leaf on
a field at any depth. `AtRoot` says of a restriction that it shares no nested object with anything
beside it, and which clause it compiles to. A combination with such a restriction opens no nested
object (`AtRoot.anyOf`, `AtRoot.allOf`), so that every part of it keeps its own clause.
-/

namespace TieredSearch.Filter

open Document (valuesAt narrowings)

variable {R : Type} [Scalar R] {t : Target} {name : String} {f : Field}

/-- A restriction outside nested objects, and the clause it compiles to. -/
structure AtRoot (t : Target) (restriction : Filter R) (clause : Query R) : Prop where
  /-- The restriction compiles to the clause. -/
  compiled : compileWithin t none restriction [] = .ok (some clause)
  /-- Its leaves share no nested object. -/
  scopes : nestedScopes t none restriction = some []

/-! ### Leaves -/

/-- A list of texts on a text field outside nested objects. -/
theorem AtRoot.isIn (found : t.schema.field? name = some f) (text : f.kind = .text)
    (root : f.nestedPath = []) (texts : List String) :
    AtRoot t (isIn name texts : Filter R) (membership t.missingAlias [] name texts) where
  compiled := by
    rw [compileWithin_isIn found text, root]
    rfl
  scopes := by rw [nestedScopes_isIn found, root]

/-- The test that a field outside nested objects has no value. -/
theorem AtRoot.missing (found : t.schema.field? name = some f) (root : f.nestedPath = []) :
    AtRoot t (.missing name : Filter R) (.noneOf (.present name)) where
  compiled := by
    simp only [compileWithin, Target.field_eq_ok found, root, Schema.name_of_field? found, bind,
      Except.bind, pure, Except.pure]
    rfl
  scopes := by simp [nestedScopes, Schema.nestedPath, found, root]

/-- The test that no value of a text field is a text, at any depth: the nested objects around the
field are opened inside the negation. -/
theorem compileWithin_differs (found : t.schema.field? name = some f) (text : f.kind = .text)
    {value : String} (free : t.missingAlias ≠ some value) :
    compileWithin t none (differs name value : Filter R) [] =
      .ok (some (.noneOf (.nestedIn f.nestedPath (.term name (.str value))))) := by
  simp [differs, compileWithin, Target.field_eq_ok found, compileCompare, text, textOperand, free,
    Schema.name_of_field? found, unopened, bind, Except.bind, pure, Except.pure]

/-! ### Combinations -/

omit [Scalar R] in
theorem sharedScopes_root (others : Option (List String)) :
    sharedScopes (some []) others = some [] := by
  cases others <;> rfl

omit [Scalar R] in
theorem scopesFor_root (others : Option (List String)) :
    scopesFor (sharedScopes (some []) others) [] = [] := by
  rw [sharedScopes_root]
  rfl

omit [Scalar R] in
theorem scopesFor_beside_root (others : Option (List String)) :
    scopesFor (sharedScopes others (some [])) [] = [] := by
  rcases others with _ | _ | _ <;> rfl

section Combinations

variable {restriction beside : Filter R} {clause besideClause : Query R}

theorem AtRoot.compileEach (h : AtRoot t restriction clause)
    (compiled : compileWithin t none beside [] = .ok (some besideClause)) :
    compileEach t none [restriction, beside] [] = .ok [clause, besideClause] := by
  simp only [Filter.compileEach, h.compiled, compiled, bind, Except.bind, pure, Except.pure]
  rfl

/-- Either of two restrictions, the first one outside nested objects. -/
theorem AtRoot.anyOf (h : AtRoot t restriction clause)
    (compiled : compileWithin t none beside [] = .ok (some besideClause)) :
    AtRoot t (.anyOf [restriction, beside]) (.anyOf [clause, besideClause]) where
  compiled := by
    simp only [compileWithin, nestedScopesAll, h.scopes, scopesFor_root, h.compileEach compiled]
    rfl
  scopes := by rw [nestedScopes, nestedScopesAll, h.scopes, sharedScopes_root]

/-- Two restrictions at once, the first one outside nested objects. -/
theorem AtRoot.allOf (h : AtRoot t restriction clause)
    (compiled : compileWithin t none beside [] = .ok (some besideClause)) :
    AtRoot t (.allOf [restriction, beside]) (.allOf [clause, besideClause]) where
  compiled := by
    simp only [compileWithin, nestedScopesAll, h.scopes, scopesFor_root, h.compileEach compiled]
    rfl
  scopes := by rw [nestedScopes, nestedScopesAll, h.scopes, sharedScopes_root]

end Combinations

/-! ### A restriction narrowed further -/

/-- Outside nested objects, a conjunction admits what every clause selects. -/
theorem admits_conjunction (clauses : List (Query R)) (doc : Json R) :
    Query.admits (if clauses.isEmpty then none
      else some (.nestedIn (unopened ([] : List String) []) (.allOf clauses))) doc =
        clauses.all (·.selects doc) := by
  cases clauses with
  | nil => rfl
  | cons clause clauses => exact Query.selects_allOf _ _

/-- A conjunction, one part of which is outside nested objects, opens none. -/
theorem compileWithin_allOf_root {dropped : Option String} {auth exclusion : Filter R}
    (root : nestedScopes t dropped exclusion = some []) :
    compileWithin t dropped (.allOf [auth, exclusion]) [] =
      (compileEach t dropped [auth, exclusion] []).map fun clauses =>
        if clauses.isEmpty then none
        else some (.nestedIn (unopened ([] : List String) []) (.allOf clauses)) := by
  have scopes : scopesFor (nestedScopesAll t dropped [auth, exclusion]) [] = [] := by
    rw [nestedScopesAll, nestedScopesAll, nestedScopesAll, root]
    exact scopesFor_beside_root _
  rw [compileWithin, scopes]

variable {exclusion restriction : Filter R} {clause : Query R}

/-- A restriction narrowed by one outside nested objects admits less, and compiles when it does by
itself. -/
theorem compileWithin_narrowed (exclusion : Filter R) (h : AtRoot t restriction clause) :
    Agree (fun before after => ∀ doc, Query.admits after doc = (Query.admits before doc && clause.selects doc))
      (compileWithin t none exclusion [])
      (compileWithin t none (.allOf [exclusion, restriction]) []) := by
  rw [compileWithin_allOf_root h.scopes]
  simp only [Filter.compileEach, h.compiled]
  cases compileWithin t none exclusion [] with
  | error e => exact .error e
  | ok before =>
    refine .ok fun doc => (admits_conjunction _ doc).trans ?_
    simp

/-- What a restriction beside a filter is narrowed by outside nested objects narrows the whole. -/
theorem compile_narrowed (root : nestedScopes t none exclusion = some [])
    (h : AtRoot t restriction clause) (user : Option (Filter R)) (excludeField : Option String)
    (filterSelf : Bool) (own : Option (Filter R)) :
    Agree (fun before after => ∀ doc, Query.admits after doc = (Query.admits before doc && clause.selects doc))
      (compile t user excludeField filterSelf (both own (some exclusion)))
      (compile t user excludeField filterSelf (both own (some (.allOf [exclusion, restriction])))) := by
  have narrowed := compileWithin_narrowed exclusion h
  have inner : nestedScopes t none (.allOf [exclusion, restriction]) = some [] := by
    rw [nestedScopes, nestedScopesAll, root, sharedScopes_root]
  have beside : Agree (fun before after => ∀ doc,
        Query.admits after doc = (Query.admits before doc && clause.selects doc))
      (compileOptional t none (both own (some exclusion)))
      (compileOptional t none (both own (some (.allOf [exclusion, restriction])))) := by
    cases own with
    | none => exact narrowed
    | some auth =>
      simp only [both, compileOptional, compileWithin_allOf_root root, compileWithin_allOf_root inner,
        Filter.compileEach]
      generalize compileWithin t none exclusion [] = before at narrowed ⊢
      generalize compileWithin t none (.allOf [exclusion, restriction]) [] = after at narrowed ⊢
      cases compileWithin t none auth [] with
      | error e => exact .error e
      | ok first =>
        cases narrowed with
        | error e => exact .error e
        | ok related =>
          refine .ok fun doc => ?_
          rw [admits_conjunction, admits_conjunction]
          simp [related, Bool.and_assoc]
  rw [compile_eq, compile_eq]
  refine (Agree.refl (fun _ => rfl) _).bind fun u u' hu => ?_
  subst hu
  refine beside.bind fun before after narrowed => .ok fun doc => ?_
  rw [admits_joined, admits_joined, narrowed, Bool.and_assoc]

end TieredSearch.Filter
