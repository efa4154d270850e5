import TieredSearch.Context
import TieredSearch.Proofs.Search.Dialogue

/-!
# Why filters and sort orders are refused

Every error of a filter that does not compile says that the filter is invalid
(`Filter.compile_failsOnly`), and every error of a sort order that it is
(`SortClause.ofJson_failsOnly`). So compiling is never the reason for an answer that something is
forbidden (`Context.compileFilter_ne_forbidden`, `Context.compileSort_ne_forbidden`).
-/

namespace TieredSearch

/-- Every error of a computation has a property. -/
def FailsOnly {ε α : Type} (P : ε → Prop) (x : Except ε α) : Prop := ∀ e, x = .error e → P e

namespace FailsOnly

variable {ε α β : Type} {P : ε → Prop}

theorem ok (a : α) : FailsOnly P (.ok a) := fun _ h => by cases h

theorem error {e : ε} (h : P e) : FailsOnly P (.error e : Except ε α) := fun _ same => by
  cases same
  exact h

theorem bind {x : Except ε α} {f : α → Except ε β} (h : FailsOnly P x)
    (hf : ∀ a, FailsOnly P (f a)) :
    FailsOnly P (x >>= f) := by
  cases x with
  | error e => exact error (h e rfl)
  | ok a => exact hf a

theorem map {x : Except ε α} (f : α → β) (h : FailsOnly P x) : FailsOnly P (x.map f) := by
  cases x with
  | error e => exact error (h e rfl)
  | ok a => exact ok (f a)

end FailsOnly

variable {R : Type} [Scalar R]

/-! ### Filters -/

namespace Filter

/-- The error says that a filter is invalid. -/
def Invalid (e : QueryError) : Prop := ∃ fault, e = .invalidFilter fault

theorem textOperand_failsOnly (field : String) (operand : Json R) :
    FailsOnly Invalid (textOperand field operand) := by
  cases operand <;> first | exact .ok _ | exact .error ⟨_, rfl⟩

theorem numericOperand_failsOnly (field : String) (operand : Json R) :
    FailsOnly Invalid (numericOperand field operand) := by
  cases operand with
  | str s =>
    rw [numericOperand]
    split
    · exact .ok _
    · exact .error ⟨_, rfl⟩
  | _ => first | exact .ok _ | exact .error ⟨_, rfl⟩

theorem textOperands_failsOnly (field : String) (operands : List (Json R)) :
    FailsOnly Invalid (textOperands field operands) := by
  induction operands with
  | nil => exact .ok _
  | cons operand rest ih =>
    exact (textOperand_failsOnly field operand).bind fun s => ih.bind fun _ => .ok _

theorem listedOperands_failsOnly (field : String) (operand : Json R) :
    FailsOnly Invalid (listedOperands field operand) := by
  cases operand with
  | arr operands => exact textOperands_failsOnly field operands
  | _ => exact .error ⟨_, rfl⟩

theorem compileCompare_failsOnly (missingAlias : Option String) (op : Operator) (f : Field)
    (operand : Json R) (scopes : List String) :
    FailsOnly Invalid (compileCompare missingAlias op f operand scopes) := by
  unfold compileCompare
  split
  · exact (textOperand_failsOnly f.name operand).bind fun _ => .ok _
  · exact (textOperand_failsOnly f.name operand).bind fun _ => .ok _
  · exact (numericOperand_failsOnly f.name operand).bind fun _ => .ok _
  · exact (numericOperand_failsOnly f.name operand).bind fun _ => .ok _
  · exact (listedOperands_failsOnly f.name operand).bind fun _ => .ok _
  · exact (numericOperand_failsOnly f.name operand).bind fun _ => .ok _
  · exact .error ⟨_, rfl⟩

omit [Scalar R] in
theorem Target.field_failsOnly (t : Target) (name : String) : FailsOnly Invalid (t.field name) := by
  unfold Target.field
  split
  · exact .ok _
  · exact .error ⟨_, rfl⟩

theorem Target.searchTarget_failsOnly (t : Target) (name : String) :
    FailsOnly Invalid (t.searchTarget name) := by
  unfold Target.searchTarget
  split
  · split
    · exact .ok _
    · exact .error ⟨_, rfl⟩
  · exact .error ⟨_, rfl⟩

theorem Target.searchTargets_failsOnly (t : Target) (names : List String) :
    FailsOnly Invalid (t.searchTargets names) := by
  induction names with
  | nil => exact .ok _
  | cons name rest ih => exact (t.searchTarget_failsOnly name).bind fun _ => ih.bind fun _ => .ok _

omit [Scalar R] in
theorem compileSearch_failsOnly (t : Target) (keyword : String) (fields : List String) :
    FailsOnly Invalid (compileSearch t keyword fields : Except QueryError (Option (Query R))) := by
  unfold compileSearch
  split
  · exact .ok _
  · have rest (targets : List String) : FailsOnly Invalid (do
        if targets.isEmpty then throw (.invalidFilter (.nothingSearchable t.schema.index))
        return some (.multiMatch keyword (targets.map fun f => f ++ "." ++ t.analyzedSuffix)) :
          Except QueryError (Option (Query R))) := by
      split
      · exact .error ⟨_, rfl⟩
      · exact .ok _
    split
    · exact rest _
    · exact (t.searchTargets_failsOnly fields).bind rest

mutual

theorem compileWithin_failsOnly (t : Target) (dropped : Option String) :
    (f : Filter R) → (opened : List String) → FailsOnly Invalid (compileWithin t dropped f opened)
  | .allOf children, opened => (compileEach_failsOnly t dropped children _).map _
  | .anyOf children, opened => (compileEach_failsOnly t dropped children _).map _
  | .compare op field operand, opened => by
    rw [compileWithin]
    split
    · exact .ok _
    · exact (t.field_failsOnly field).bind fun f => (compileCompare_failsOnly _ _ f _ _).bind fun _ => .ok _
  | .missing field, opened => by
    rw [compileWithin]
    split
    · exact .ok _
    · exact (t.field_failsOnly field).bind fun _ => .ok _
  | .search keyword fields, opened => compileSearch_failsOnly t keyword fields

theorem compileEach_failsOnly (t : Target) (dropped : Option String) :
    (children : List (Filter R)) → (opened : List String) →
      FailsOnly Invalid (compileEach t dropped children opened)
  | [], _ => .ok _
  | child :: rest, opened =>
    (compileWithin_failsOnly t dropped child opened).bind fun _ =>
      (compileEach_failsOnly t dropped rest opened).bind fun _ => .ok _

end

theorem compileOptional_failsOnly (t : Target) (dropped : Option String) (f : Option (Filter R)) :
    FailsOnly Invalid (compileOptional t dropped f) := by
  cases f with
  | none => exact .ok _
  | some f => exact compileWithin_failsOnly t dropped f []

/-- A filter that does not compile is invalid. -/
theorem compile_failsOnly (t : Target) (user : Option (Filter R)) (excludeField : Option String)
    (filterSelf : Bool) (extra : Option (Filter R)) :
    FailsOnly Invalid (compile t user excludeField filterSelf extra) :=
  (compileOptional_failsOnly t _ user).bind fun _ =>
    (compileOptional_failsOnly t none extra).bind fun _ => .ok _

end Filter

/-! ### Sort orders -/

namespace SortClause

/-- The error says that a sort order is invalid. -/
def Invalid (e : QueryError) : Prop := ∃ fault, e = .invalidSort fault

theorem ofEntry_failsOnly (s : Schema) (field : String) (direction : Json R) :
    FailsOnly Invalid (ofEntry s field direction) := by
  unfold ofEntry
  split
  · exact .error ⟨_, rfl⟩
  · split
    · exact .error ⟨_, rfl⟩
    · exact .ok _

theorem ofEntries_failsOnly (s : Schema) (entries : List (String × Json R)) :
    FailsOnly Invalid (ofEntries s entries) := by
  induction entries with
  | nil => exact .ok _
  | cons entry rest ih =>
    exact (ofEntry_failsOnly s entry.1 entry.2).bind fun _ => ih.bind fun _ => .ok _

theorem entriesOf_failsOnly (items : List (Json R)) : FailsOnly Invalid (entriesOf items) := by
  fun_induction entriesOf items with
  | case1 => exact .ok _
  | case2 entry rest ih => exact ih.map _
  | case3 => exact .error ⟨_, rfl⟩

/-- A sort order that does not compile is invalid. -/
theorem ofJson_failsOnly (s : Schema) (order : Json R) : FailsOnly Invalid (ofJson s order) := by
  unfold ofJson
  split
  · exact .ok _
  · exact (ofEntries_failsOnly s _).map _
  · exact (entriesOf_failsOnly _).bind fun entries =>
      (ofEntries_failsOnly s entries).bind fun _ => .ok _
  · exact .error ⟨_, rfl⟩

end SortClause

/-! ### Compiling forbids nothing -/

namespace Context

variable (ctx : Context) (index : String)

omit [Scalar R] in
theorem schema_ne_forbidden : ctx.schema index ≠ .error .forbidden := by
  unfold schema
  split
  · exact fun h => by cases h
  · split <;> exact fun h => by cases h

theorem compileFilter_ne_forbidden (user : Option (Filter R)) (excludeField : Option String)
    (filterSelf : Bool) (extra : Option (Filter R)) :
    ctx.compileFilter index user excludeField filterSelf extra ≠ .error .forbidden := by
  have spared :
      FailsOnly (· ≠ .forbidden) (ctx.compileFilter index user excludeField filterSelf extra) := by
    refine FailsOnly.bind (FailsOnly.bind ?_ fun s => .ok _) fun t e refused => ?_
    · rintro e unknown rfl
      exact ctx.schema_ne_forbidden index unknown
    · obtain ⟨fault, rfl⟩ := Filter.compile_failsOnly t user excludeField filterSelf extra e refused
      exact QueryError.noConfusion
  exact fun h => spared _ h rfl

theorem compileSort_ne_forbidden (order : Json R) :
    ctx.compileSort index order ≠ .error .forbidden := by
  have spared : FailsOnly (· ≠ .forbidden) (ctx.compileSort index order) := by
    refine FailsOnly.bind ?_ fun s e refused => ?_
    · rintro e unknown rfl
      exact ctx.schema_ne_forbidden index unknown
    · obtain ⟨fault, rfl⟩ := SortClause.ofJson_failsOnly s order e refused
      exact QueryError.noConfusion
  exact fun h => spared _ h rfl

end Context

end TieredSearch
