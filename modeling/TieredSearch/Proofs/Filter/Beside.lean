import TieredSearch.Proofs.Filter.Rooted

/-!
# Filters beside other filters

Beside another filter, a filter is compiled within the nested scopes that the two share. That changes
the clause it compiles to, but not whether it compiles, nor the error if it does not
(`compileWithin_agree`). So a restriction that compiles wherever it stands (`Stands`) makes no
difference to whether a filter beside it compiles (`compile_agree_both`), at whatever depth its fields
lie.
-/

namespace TieredSearch.Filter

variable {R : Type} [Scalar R] {t : Target}

/-! ### Open scopes -/

/-- The scopes still to be opened make no difference to whether a comparison is refused. -/
theorem compileCompare_agree (missingAlias : Option String) (op : Operator) (f : Field) (operand : Json R)
    (scopes scopes' : List String) :
    Agree (fun _ _ => True) (compileCompare missingAlias op f operand scopes)
      (compileCompare missingAlias op f operand scopes') := by
  have read {α : Type} (x : Except QueryError α) (clause clause' : α → Query R) :
      Agree (fun _ _ => True) (x >>= fun a => .ok (clause a)) (x >>= fun a => .ok (clause' a)) :=
    (Agree.refl (fun _ => rfl) x).bind fun _ _ _ => .ok trivial
  cases kind : f.kind with
  | text =>
    cases op with
    | range b =>
      simp only [compileCompare, kind]
      exact .error _
    | _ =>
      simp only [compileCompare, kind]
      exact read _ _ _
  | numeric =>
    cases op with
    | among =>
      simp only [compileCompare, kind]
      exact .error _
    | _ =>
      simp only [compileCompare, kind]
      exact read _ _ _

mutual

/-- The scopes that are open make no difference to whether a filter compiles. -/
theorem compileWithin_agree (t : Target) (dropped : Option String) :
    (f : Filter R) → (opened opened' : List String) →
      Agree (fun _ _ => True) (compileWithin t dropped f opened) (compileWithin t dropped f opened')
  | .allOf children, opened, opened' =>
    (compileEach_agree t dropped children _ _).map fun _ _ _ => trivial
  | .anyOf children, opened, opened' =>
    (compileEach_agree t dropped children _ _).map fun _ _ _ => trivial
  | .compare op field operand, opened, opened' => by
    rw [compileWithin, compileWithin]
    split
    · exact .ok trivial
    · refine (Agree.refl (fun _ => rfl) (t.field field)).bind fun f _ same => ?_
      subst same
      exact (compileCompare_agree t.missingAlias op f operand _ _).bind fun _ _ _ => .ok trivial
  | .missing field, opened, opened' => by
    rw [compileWithin, compileWithin]
    split
    · exact .ok trivial
    · exact (Agree.refl (fun _ => rfl) (t.field field)).bind fun _ _ _ => .ok trivial
  | .search keyword fields, opened, opened' => Agree.refl (fun _ => trivial) _

theorem compileEach_agree (t : Target) (dropped : Option String) :
    (children : List (Filter R)) → (opened opened' : List String) →
      Agree (fun _ _ => True) (compileEach t dropped children opened) (compileEach t dropped children opened')
  | [], _, _ => .ok trivial
  | child :: rest, opened, opened' =>
    (compileWithin_agree t dropped child opened opened').bind fun _ _ _ =>
      (compileEach_agree t dropped rest opened opened').bind fun _ _ _ => .ok trivial

end

/-! ### Filters that compile anywhere -/

/-- A filter compiles to a clause wherever it stands. -/
def Stands (t : Target) (f : Filter R) : Prop :=
  ∀ opened, ∃ clause, compileWithin t none f opened = .ok (some clause)

namespace Stands

variable {name : String} {f : Field}

theorem isIn (found : t.schema.field? name = some f) (text : f.kind = .text) (texts : List String) :
    Stands t (isIn name texts : Filter R) :=
  fun opened => ⟨_, compileWithin_isIn found text texts opened⟩

theorem differs (found : t.schema.field? name = some f) (text : f.kind = .text) (value : String) :
    Stands t (differs name value : Filter R) := fun opened => by
  simp [Filter.differs, compileWithin, Target.field_eq_ok found, compileCompare, text, textOperand, bind,
    Except.bind, pure, Except.pure]

theorem missing (found : t.schema.field? name = some f) : Stands t (.missing name : Filter R) := fun opened => by
  simp [compileWithin, Target.field_eq_ok found, bind, Except.bind, pure, Except.pure]

section Pairs

variable {x y : Filter R} (hx : Stands t x) (hy : Stands t y)

include hx hy

theorem compileEach (opened : List String) :
    ∃ clause clauses, compileEach t none [x, y] opened = .ok (clause :: clauses) := by
  obtain ⟨clause, hclause⟩ := hx opened
  obtain ⟨clause', hclause'⟩ := hy opened
  refine ⟨clause, [clause'], ?_⟩
  rw [Filter.compileEach, hclause, Filter.compileEach, hclause']
  rfl

theorem anyOf : Stands t (.anyOf [x, y]) := fun opened => by
  obtain ⟨clause, clauses, compiled⟩ :=
    compileEach hx hy (scopesFor (nestedScopesAll t none [x, y]) opened)
  rw [compileWithin, compiled]
  exact ⟨_, rfl⟩

theorem allOf : Stands t (.allOf [x, y]) := fun opened => by
  obtain ⟨clause, clauses, compiled⟩ :=
    compileEach hx hy (scopesFor (nestedScopesAll t none [x, y]) opened)
  rw [compileWithin, compiled]
  exact ⟨_, rfl⟩

end Pairs

end Stands

/-- A restriction that compiles anywhere makes no difference to whether one beside it compiles. -/
theorem compileOptional_agree_both {x : Filter R} (stands : Stands t x) (auth : Option (Filter R)) :
    Agree (fun _ _ => True) (compileOptional t none auth) (compileOptional t none (both auth (some x))) := by
  cases auth with
  | none =>
    obtain ⟨clause, compiled⟩ := stands []
    rw [both, compileOptional, compileOptional, compiled]
    exact .ok trivial
  | some auth =>
    generalize hscopes : scopesFor (nestedScopesAll t none [auth, x]) [] = scopes
    obtain ⟨clause, compiled⟩ := stands scopes
    have last : compileEach t none [x] scopes = .ok [clause] := by
      rw [compileEach, compiled]
      rfl
    rw [both, compileOptional, compileOptional, compileWithin, hscopes, compileEach, last]
    have first := compileWithin_agree t none auth [] scopes
    generalize compileWithin t none auth [] = before, compileWithin t none auth scopes = within at first
    cases first with
    | ok _ => exact .ok trivial
    | error e => exact .error e

/-- A restriction that compiles anywhere makes no difference to whether a filter compiles under it. -/
theorem compile_agree_both {x : Filter R} (stands : Stands t x) (user : Option (Filter R))
    (excludeField : Option String) (filterSelf : Bool) (auth : Option (Filter R)) :
    Agree (fun _ _ => True) (compile t user excludeField filterSelf auth)
      (compile t user excludeField filterSelf (both auth (some x))) := by
  rw [compile_eq, compile_eq]
  refine (Agree.refl (fun _ => rfl) _).bind fun _ _ _ => ?_
  exact (compileOptional_agree_both stands auth).bind fun _ _ _ => .ok trivial

end TieredSearch.Filter
