import TieredSearch.Proofs.Filter.Scopes
import TieredSearch.Proofs.Number.Numeral
import TieredSearch.Proofs.Sorting

/-!
# Which filters are refused, and why

Whether a filter compiles is a matter of its leaves alone, and which error it is refused with a matter of the
first leaf that has a fault. The faults of a leaf are said here without the compiler:

* an operand that is not of its field's kind, or an operator that the kind does not have (`CompareFault`),
* a field that the index does not have, or that keyword search does not cover (`LeafFault`).

A leaf on the field that is left out, and a blank keyword search, are not asked (`takingPart`).

Main statement (`compile_eq_error_iff`): compiling a filter beside a restriction fails exactly when some leaf
that takes part has a fault. The error is that the filter is invalid, by the fault of the first such leaf from
left to right, those of the filter before those of the restriction.
-/

namespace TieredSearch

/-! ### The first fault of a list -/

section FirstFault

variable {α β : Type} {P : α → β → Prop}

/-- `FirstFault P xs b`: the first item with a fault has the fault `b`. -/
inductive FirstFault (P : α → β → Prop) : List α → β → Prop where
  /-- The item at the front has the fault. -/
  | here {x : α} {xs : List α} {b : β} (bad : P x b) : FirstFault P (x :: xs) b
  /-- The item at the front has none, and the first one further on has it. -/
  | later {x : α} {xs : List α} {b : β} (clean : ∀ c, ¬ P x c) (further : FirstFault P xs b) :
      FirstFault P (x :: xs) b

namespace FirstFault

theorem nil_iff {b : β} : FirstFault P [] b ↔ False := by
  refine ⟨fun h => ?_, False.elim⟩
  cases h

theorem cons_iff {x : α} {xs : List α} {b : β} :
    FirstFault P (x :: xs) b ↔ P x b ∨ (∀ c, ¬ P x c) ∧ FirstFault P xs b := by
  constructor
  · intro h
    cases h with
    | here bad => exact .inl bad
    | later clean further => exact .inr ⟨clean, further⟩
  · rintro (bad | ⟨clean, further⟩)
    · exact .here bad
    · exact .later clean further

theorem singleton_iff {x : α} {b : β} : FirstFault P [x] b ↔ P x b := by
  rw [cons_iff, nil_iff, and_false, or_false]

/-- Some item has a fault exactly when one is the first that has. -/
theorem exists_iff {xs : List α} : (∃ b, FirstFault P xs b) ↔ ∃ x ∈ xs, ∃ b, P x b := by
  induction xs with
  | nil => simp [nil_iff]
  | cons x xs ih =>
    by_cases bad : ∃ b, P x b
    · obtain ⟨b, hb⟩ := bad
      exact ⟨fun _ => ⟨x, List.mem_cons_self, b, hb⟩, fun _ => ⟨b, .here hb⟩⟩
    · have clean : ∀ b, ¬ P x b := not_exists.mp bad
      simp only [cons_iff, clean, not_false_eq_true, implies_true, false_or, true_and, ih,
        List.exists_mem_cons_iff, exists_false]

/-- The first fault of two lists is that of the first list, and that of the second where the first has none. -/
theorem append_iff {xs ys : List α} {b : β} : FirstFault P (xs ++ ys) b ↔
    FirstFault P xs b ∨ (∀ c, ¬ FirstFault P xs c) ∧ FirstFault P ys b := by
  induction xs with
  | nil => simp [nil_iff]
  | cons x xs ih =>
    rw [List.cons_append, cons_iff, ih]
    simp only [cons_iff]
    by_cases bad : ∃ c, P x c
    · have dirty : ¬ ∀ c, ¬ P x c := fun clean => bad.elim clean
      simp only [dirty, false_and, or_false]
    · have clean : ∀ c, ¬ P x c := not_exists.mp bad
      simp only [clean, false_or, not_false_eq_true, implies_true, true_and]

end FirstFault

end FirstFault

/-- Whether the fields of a kind can be compared so: texts have no order, and numbers are not listed. -/
def Operator.suits : Operator → FieldKind → Bool
  | .among, .numeric => false
  | .range _, .text => false
  | _, _ => true

namespace Filter

/-! ### Refusals -/

/-- `RefusedFor x faults`: the computation fails exactly for the faults, each time because the filter is
invalid. -/
def RefusedFor {α : Type} (x : Except QueryError α) (faults : FilterFault → Prop) : Prop :=
  ∀ e, x = .error e ↔ ∃ fault, e = .invalidFilter fault ∧ faults fault

namespace RefusedFor

variable {α β : Type} {x : Except QueryError α} {faults faults' : FilterFault → Prop}

theorem ok (a : α) (none : ∀ fault, ¬ faults fault) : RefusedFor (.ok a : Except QueryError α) faults := by
  intro e
  constructor
  · intro h
    cases h
  · rintro ⟨fault, -, h⟩
    exact absurd h (none fault)

theorem error {fault : FilterFault} (only : ∀ fault', faults fault' ↔ fault' = fault) :
    RefusedFor (.error (.invalidFilter fault) : Except QueryError α) faults := by
  intro e
  constructor
  · intro h
    cases h
    exact ⟨fault, rfl, (only fault).mpr rfl⟩
  · rintro ⟨fault', rfl, h⟩
    rw [(only fault').mp h]

theorem congr (h : RefusedFor x faults) (same : ∀ fault, faults' fault ↔ faults fault) :
    RefusedFor x faults' := by
  intro e
  rw [h e]
  simp only [same]

/-- Where a computation gives a value there is no fault. -/
theorem not_of_ok {a : α} (h : RefusedFor x faults) (good : x = .ok a) (fault : FilterFault) :
    ¬ faults fault := by
  intro bad
  have refused : x = .error (.invalidFilter fault) := (h _).mpr ⟨fault, rfl, bad⟩
  cases good.symm.trans refused

/-- One computation after another fails for the faults of the first one, and for those of the second one where
the first has none. -/
theorem bind {f : α → Except QueryError β} (h : RefusedFor x faults)
    (hf : ∀ a, x = .ok a → RefusedFor (f a) faults') :
    RefusedFor (x >>= f) fun fault => faults fault ∨ (∀ c, ¬ faults c) ∧ faults' fault := by
  cases result : x with
  | error e =>
    obtain ⟨fault, rfl, bad⟩ := (h e).mp result
    intro e'
    constructor
    · intro refused
      cases refused
      exact ⟨fault, rfl, .inl bad⟩
    · rintro ⟨fault', rfl, bad' | ⟨clean, -⟩⟩
      · cases result.symm.trans ((h _).mpr ⟨fault', rfl, bad'⟩)
        rfl
      · exact absurd bad (clean fault)
  | ok a =>
    have clean := h.not_of_ok result
    refine congr (hf a result) fun fault => ?_
    simp only [clean, not_false_eq_true, implies_true, true_and, false_or]

/-- What goes on without failing fails for the same faults. -/
theorem bind_ok (h : RefusedFor x faults) (f : α → β) :
    RefusedFor (x >>= fun a => .ok (f a)) faults := by
  have never : ∀ a, x = .ok a → RefusedFor (.ok (f a) : Except QueryError β) fun _ => False :=
    fun a _ => ok (f a) fun _ => id
  refine (bind h never).congr fun fault => ?_
  simp only [and_false, or_false]

theorem map (h : RefusedFor x faults) (f : α → β) : RefusedFor (x.map f) faults := by
  cases x with
  | error e => exact bind_ok h f
  | ok a => exact bind_ok h f

end RefusedFor

variable {R : Type} [Scalar R]

/-! ### Operands -/

/-- `TextFault field operand fault`: the operand is no text, no number and no truth value. -/
inductive TextFault (field : String) : Json R → FilterFault → Prop where
  /-- There is nothing there. -/
  | null : TextFault field .null (.textOperand (Json.compact (R := R) .null) field)
  /-- A list. -/
  | list (items : List (Json R)) : TextFault field (.arr items) (.textOperand (Json.arr items).compact field)
  /-- An object. -/
  | object (members : List (String × Json R)) :
      TextFault field (.obj members) (.textOperand (Json.obj members).compact field)

/-- `NumberFault field operand fault`: the operand is no number, and no text that reads as a finite number. -/
inductive NumberFault (field : String) : Json R → FilterFault → Prop where
  /-- A text that, without the blank characters at its ends, reads as no finite number. -/
  | text {s : String} (unread : ∀ x : R, ¬ Number.Reads (Text.trim s) x) :
      NumberFault field (.str s) (.numericText s field)
  /-- Neither a number nor a text. -/
  | operand {operand : Json R} (noNumber : operand.number? = none) (noText : operand.str? = none) :
      NumberFault field operand (.numericOperand operand.compact field)

theorem textOperand_refused (field : String) (operand : Json R) :
    RefusedFor (textOperand field operand) (TextFault field operand) := by
  cases operand with
  | null => exact .error fun fault => ⟨fun h => by cases h; rfl, fun h => h ▸ .null⟩
  | arr items => exact .error fun fault => ⟨fun h => by cases h; rfl, fun h => h ▸ .list items⟩
  | obj members => exact .error fun fault => ⟨fun h => by cases h; rfl, fun h => h ▸ .object members⟩
  | _ => exact .ok _ fun fault h => by cases h

theorem numericOperand_refused (field : String) (operand : Json R) :
    RefusedFor (numericOperand field operand) (NumberFault field operand) := by
  have other (noNumber : operand.number? = none) (noText : operand.str? = none) :
      RefusedFor (.error (.invalidFilter (.numericOperand operand.compact field)) : Except QueryError (Json R))
        (NumberFault field operand) := by
    refine .error fun fault => ⟨fun h => ?_, fun h => h ▸ .operand noNumber noText⟩
    cases h with
    | text _ => cases noText
    | operand _ _ => rfl
  cases operand with
  | str s =>
    rw [numericOperand]
    split
    next x read =>
      refine .ok _ fun fault h => ?_
      cases h with
      | text unread => exact unread x (Number.numeral?_eq_some_iff.mp read)
      | operand _ noText => cases noText
    next none =>
      have unread (x : R) (reads : Number.Reads (Text.trim s) x) : False := by
        cases none.symm.trans (Number.numeral?_eq_some_iff.mpr reads)
      refine .error fun fault => ⟨fun h => ?_, fun h => h ▸ .text unread⟩
      cases h with
      | text _ => rfl
      | operand _ noText => cases noText
  | int n =>
    refine .ok _ fun fault h => ?_
    cases h with
    | operand noNumber _ => cases noNumber
  | real x =>
    refine .ok _ fun fault h => ?_
    cases h with
    | operand noNumber _ => cases noNumber
  | _ => exact other rfl rfl

/-- The texts of a list are read one after the other. -/
theorem textOperands_refused (field : String) (operands : List (Json R)) :
    RefusedFor (textOperands field operands) (FirstFault (TextFault field) operands) := by
  induction operands with
  | nil => exact .ok _ fun fault h => by cases h
  | cons operand rest ih =>
    refine (RefusedFor.bind (textOperand_refused field operand) fun s _ => ih.bind_ok fun texts => s :: texts).congr
      fun fault => ?_
    exact FirstFault.cons_iff

/-! ### Comparisons -/

/-- `CompareFault f op operand fault`: comparing the field with the operand has a fault. -/
inductive CompareFault (f : Field) : Operator → Json R → FilterFault → Prop where
  /-- The fields of this kind cannot be compared so. -/
  | operator {op : Operator} {operand : Json R} (unsuited : op.suits f.kind = false) :
      CompareFault f op operand (.unsupportedOperator op f.kind f.name)
  /-- The operand of a text field is no text. -/
  | text {op : Operator} {operand : Json R} {fault : FilterFault} (kind : f.kind = .text)
      (single : op = .eq ∨ op = .ne) (bad : TextFault f.name operand fault) : CompareFault f op operand fault
  /-- What a text field is to be among is no list. -/
  | notAList {operand : Json R} (kind : f.kind = .text) (apart : operand.items? = none) :
      CompareFault f .among operand (.membersNotAList f.name)
  /-- It is a list of which not all are texts. -/
  | member {items : List (Json R)} {fault : FilterFault} (kind : f.kind = .text)
      (first : FirstFault (TextFault f.name) items fault) : CompareFault f .among (.arr items) fault
  /-- The operand of a numeric field is no number. -/
  | number {op : Operator} {operand : Json R} {fault : FilterFault} (kind : f.kind = .numeric)
      (single : op ≠ .among) (bad : NumberFault f.name operand fault) : CompareFault f op operand fault

variable {f : Field} {op : Operator} {operand : Json R}

theorem listedOperands_refused (kind : f.kind = .text) (operand : Json R) :
    RefusedFor (listedOperands f.name operand) (CompareFault f .among operand) := by
  have other (apart : operand.items? = none) :
      RefusedFor (.error (.invalidFilter (.membersNotAList f.name)) : Except QueryError (List String))
        (CompareFault f .among operand) := by
    refine .error fun fault => ⟨fun h => ?_, fun h => h ▸ .notAList kind apart⟩
    cases h with
    | operator unsuited => rw [kind] at unsuited; cases unsuited
    | text _ single _ => rcases single with h | h <;> cases h
    | notAList _ _ => rfl
    | member _ _ => cases apart
    | number _ single _ => exact absurd rfl single
  cases operand with
  | arr items =>
    refine (textOperands_refused f.name items).congr fun fault => ⟨fun h => ?_, .member kind⟩
    cases h with
    | operator unsuited => rw [kind] at unsuited; cases unsuited
    | text _ single _ => rcases single with h | h <;> cases h
    | notAList _ apart => cases apart
    | member _ first => exact first
    | number _ single _ => exact absurd rfl single
  | _ => exact other rfl

/-- With a suitable operator, a text field is compared with one text. -/
theorem compareFault_text_iff (kind : f.kind = .text) (single : op = .eq ∨ op = .ne) {fault : FilterFault} :
    CompareFault f op operand fault ↔ TextFault f.name operand fault := by
  refine ⟨fun h => ?_, .text kind single⟩
  cases h with
  | operator unsuited => rcases single with rfl | rfl <;> (rw [kind] at unsuited; cases unsuited)
  | text _ _ bad => exact bad
  | notAList _ _ => rcases single with h | h <;> cases h
  | member _ _ => rcases single with h | h <;> cases h
  | number numeric _ _ => cases kind.symm.trans numeric

/-- With a suitable operator, a numeric field is compared with one number. -/
theorem compareFault_numeric_iff (kind : f.kind = .numeric) (single : op ≠ .among) {fault : FilterFault} :
    CompareFault f op operand fault ↔ NumberFault f.name operand fault := by
  refine ⟨fun h => ?_, .number kind single⟩
  cases h with
  | operator unsuited =>
    rw [kind] at unsuited
    cases op with
    | among => exact absurd rfl single
    | _ => cases unsuited
  | text text _ _ => cases kind.symm.trans text
  | notAList _ _ => exact absurd rfl single
  | member _ _ => exact absurd rfl single
  | number _ _ bad => exact bad

/-- An operator that does not suit the field is the only fault. -/
theorem compareFault_unsuited_iff (unsuited : op.suits f.kind = false) {fault : FilterFault} :
    CompareFault f op operand fault ↔ fault = .unsupportedOperator op f.kind f.name := by
  refine ⟨fun h => ?_, fun h => h ▸ .operator unsuited⟩
  cases h with
  | operator _ => rfl
  | text kind single _ => rcases single with rfl | rfl <;> (rw [kind] at unsuited; cases unsuited)
  | notAList kind _ => rw [kind] at unsuited; cases unsuited
  | member kind _ => rw [kind] at unsuited; cases unsuited
  | number kind single _ =>
    rw [kind] at unsuited
    cases op with
    | among => exact absurd rfl single
    | _ => cases unsuited

theorem compileCompare_refused (missingAlias : Option String) (op : Operator) (f : Field) (operand : Json R)
    (scopes : List String) :
    RefusedFor (compileCompare missingAlias op f operand scopes) (CompareFault f op operand) := by
  unfold compileCompare
  cases kind : f.kind with
  | text =>
    cases op with
    | eq =>
      exact ((textOperand_refused f.name operand).bind_ok _).congr fun _ => compareFault_text_iff kind (.inl rfl)
    | ne =>
      exact ((textOperand_refused f.name operand).bind_ok _).congr fun _ => compareFault_text_iff kind (.inr rfl)
    | among => exact (listedOperands_refused kind operand).bind_ok _
    | range b =>
      refine .error fun _ => ?_
      rw [compareFault_unsuited_iff (by rw [kind]; rfl), kind]
  | numeric =>
    cases op with
    | among =>
      refine .error fun _ => ?_
      rw [compareFault_unsuited_iff (by rw [kind]; rfl), kind]
    | eq =>
      exact ((numericOperand_refused f.name operand).bind_ok _).congr fun _ =>
        compareFault_numeric_iff kind Operator.noConfusion
    | ne =>
      exact ((numericOperand_refused f.name operand).bind_ok _).congr fun _ =>
        compareFault_numeric_iff kind Operator.noConfusion
    | range b =>
      exact ((numericOperand_refused f.name operand).bind_ok _).congr fun _ =>
        compareFault_numeric_iff kind Operator.noConfusion

/-! ### Leaves -/

/-- `SearchFault t name fault`: keyword search does not cover the field. -/
inductive SearchFault (t : Target) (name : String) : FilterFault → Prop where
  /-- The index does not have it. -/
  | unknown (absent : t.schema.field? name = none) : SearchFault t name (.unknownField name t.schema.index)
  /-- It has no analyzed form. -/
  | notSearchable {f : Field} (found : t.schema.field? name = some f) (plain : f.searchable = false) :
      SearchFault t name (.notSearchable name)

/-- `LeafFault t leaf fault`: the leaf has a fault. -/
inductive LeafFault (t : Target) : Filter R → FilterFault → Prop where
  /-- A comparison or a missing-field test of a field that the index does not have. -/
  | unknownField {leaf : Filter R} {name : String} (tests : leaf.testedField? = some name)
      (absent : t.schema.field? name = none) : LeafFault t leaf (.unknownField name t.schema.index)
  /-- A comparison with a fault. -/
  | compare {op : Operator} {name : String} {operand : Json R} {f : Field} {fault : FilterFault}
      (found : t.schema.field? name = some f) (bad : CompareFault f op operand fault) :
      LeafFault t (.compare op name operand) fault
  /-- A keyword search in fields of which keyword search does not cover all. -/
  | searchField {keyword : String} {fields : List String} {fault : FilterFault}
      (first : FirstFault (SearchFault t) fields fault) : LeafFault t (.search keyword fields) fault
  /-- A keyword search in all fields, of which keyword search covers none. -/
  | nothingSearchable {keyword : String} (plain : ∀ f ∈ t.schema.fields, f.searchable = false) :
      LeafFault t (.search keyword []) (.nothingSearchable t.schema.index)

variable {t : Target} {name : String} {fault : FilterFault}

theorem leafFault_unknown_iff {leaf : Filter R} (tests : leaf.testedField? = some name)
    (absent : t.schema.field? name = none) :
    LeafFault t leaf fault ↔ fault = .unknownField name t.schema.index := by
  refine ⟨fun h => ?_, fun h => h ▸ .unknownField tests absent⟩
  cases h with
  | unknownField tests' _ => cases tests.symm.trans tests'; rfl
  | compare found _ => cases tests; cases absent.symm.trans found
  | searchField _ => cases tests
  | nothingSearchable _ => cases tests

theorem leafFault_compare_iff (found : t.schema.field? name = some f) :
    LeafFault t (.compare op name operand) fault ↔ CompareFault f op operand fault := by
  refine ⟨fun h => ?_, .compare found⟩
  cases h with
  | unknownField tests absent => cases tests; cases absent.symm.trans found
  | compare found' bad => cases found.symm.trans found'; exact bad

theorem not_leafFault_missing (found : t.schema.field? name = some f) :
    ¬ LeafFault t (.missing name : Filter R) fault := by
  intro h
  cases h with
  | unknownField tests absent => cases tests; cases absent.symm.trans found

theorem leafFault_search_iff {keyword : String} {fields : List String} :
    LeafFault t (.search keyword fields : Filter R) fault ↔ FirstFault (SearchFault t) fields fault ∨
      fields = [] ∧ (∀ f ∈ t.schema.fields, f.searchable = false) ∧
        fault = .nothingSearchable t.schema.index := by
  constructor
  · intro h
    cases h with
    | unknownField tests _ => cases tests
    | searchField first => exact .inl first
    | nothingSearchable plain => exact .inr ⟨rfl, plain, rfl⟩
  · rintro (first | ⟨rfl, plain, rfl⟩)
    · exact .searchField first
    · exact .nothingSearchable plain

omit [Scalar R] in
theorem searchTarget_refused (t : Target) (name : String) : RefusedFor (t.searchTarget name) (SearchFault t name) := by
  unfold Target.searchTarget
  split
  next f found =>
    split
    next covered =>
      refine .ok _ fun fault h => ?_
      cases h with
      | unknown absent => cases absent.symm.trans found
      | notSearchable found' plain => cases found.symm.trans found'; cases covered.symm.trans plain
    next plain =>
      refine .error fun fault => ⟨fun h => ?_, fun h => h ▸ .notSearchable found (Bool.eq_false_iff.mpr plain)⟩
      cases h with
      | unknown absent => cases absent.symm.trans found
      | notSearchable _ _ => rfl
  next absent =>
    refine .error fun fault => ⟨fun h => ?_, fun h => h ▸ .unknown absent⟩
    cases h with
    | unknown _ => rfl
    | notSearchable found _ => cases absent.symm.trans found

omit [Scalar R] in
theorem searchTargets_refused (t : Target) (names : List String) :
    RefusedFor (t.searchTargets names) (FirstFault (SearchFault t) names) := by
  induction names with
  | nil => exact .ok _ fun fault h => by cases h
  | cons name rest ih =>
    refine (RefusedFor.bind (searchTarget_refused t name) fun target _ =>
      ih.bind_ok fun targets => target :: targets).congr fun fault => ?_
    exact FirstFault.cons_iff

omit [Scalar R] in
theorem searchableFields_isEmpty_iff (s : Schema) :
    s.searchableFields.isEmpty = true ↔ ∀ f ∈ s.fields, f.searchable = false := by
  rw [List.isEmpty_iff, List.eq_nil_iff_forall_not_mem]
  simp only [Schema.searchableFields, Sorting.mem_ascending, List.mem_map, List.mem_filter, not_exists, not_and]
  constructor
  · intro none f hf
    by_contra covered
    exact none f.name f ⟨hf, by simpa using covered⟩ rfl
  · intro plain name f hf _
    exact absurd hf.2 (by simp [plain f hf.1])

/-- A keyword search that is not blank is refused for its own fault. -/
theorem compileSearch_refused {keyword : String} (worded : Text.isBlank keyword = false) (fields : List String) :
    RefusedFor (compileSearch t keyword fields : Except QueryError (Option (Query R)))
      (LeafFault t (.search keyword fields : Filter R)) := by
  rw [compileSearch_of_worded worded]
  cases fields with
  | nil =>
    rw [if_pos List.isEmpty_nil]
    have faults : LeafFault t (.search keyword [] : Filter R) = fun fault =>
        t.schema.searchableFields.isEmpty = true ∧ fault = .nothingSearchable t.schema.index := by
      funext fault
      rw [leafFault_search_iff, FirstFault.nil_iff, false_or, searchableFields_isEmpty_iff]
      simp
    rw [faults]
    change RefusedFor (if t.schema.searchableFields.isEmpty then _ else _) _
    split
    next plain => exact .error fun _ => ⟨And.right, fun h => ⟨plain, h⟩⟩
    next covered => exact .ok _ fun _ h => covered h.1
  | cons name rest =>
    rw [if_neg (by simp)]
    have never : ∀ targets, t.searchTargets (name :: rest) = .ok targets → RefusedFor
        (if targets.isEmpty then .error (.invalidFilter (.nothingSearchable t.schema.index))
          else .ok (some (.multiMatch keyword (targets.map fun f => f ++ "." ++ t.analyzedSuffix))) :
            Except QueryError (Option (Query R))) fun _ => False := by
      intro targets listed
      rw [Target.searchTargets_eq listed, if_neg (by simp)]
      exact .ok _ fun _ => id
    refine (RefusedFor.bind (searchTargets_refused t (name :: rest)) never).congr fun fault => ?_
    rw [leafFault_search_iff]
    simp

/-! ### Filters -/

omit [Scalar R] in
/-- The leaves of a filter that take part, from left to right. -/
def takingPart (dropped : Option String) (f : Filter R) : List (Filter R) :=
  f.leaves.filter (·.contributes dropped)

omit [Scalar R] in
/-- The leaves that are asked, in this order: those of the filter that take part, then those of the restriction,
where only blank searches do not. -/
def asked (user : Option (Filter R)) (excludeField : Option String) (filterSelf : Bool)
    (extra : Option (Filter R)) : List (Filter R) :=
  user.toList.flatMap (·.takingPart (leftOut excludeField filterSelf)) ++ extra.toList.flatMap (·.takingPart none)

variable (t) (dropped : Option String)

/-- A leaf that takes part is refused for its fault. -/
theorem refused_of_leaf {leaf : Filter R} (alone : leaf.leaves = [leaf]) {x : Except QueryError (Option (Query R))}
    (left : leaf.contributes dropped = false → x = .ok none)
    (kept : leaf.contributes dropped = true → RefusedFor x (LeafFault t leaf)) :
    RefusedFor x (FirstFault (LeafFault t) (leaf.takingPart dropped)) := by
  rw [takingPart, alone, List.filter_singleton]
  cases part : leaf.contributes dropped with
  | false =>
    rw [left part]
    exact .ok _ fun fault h => by cases h
  | true => exact (kept part).congr fun _ => FirstFault.singleton_iff

mutual

/-- A filter is refused for the first fault of its leaves that take part. -/
theorem compileWithin_refused : (f : Filter R) → (opened : List String) →
    RefusedFor (compileWithin t dropped f opened) (FirstFault (LeafFault t) (f.takingPart dropped))
  | .allOf children, opened => by
    rw [compileWithin]
    exact (compileEach_refused children _).map _
  | .anyOf children, opened => by
    rw [compileWithin]
    exact (compileEach_refused children _).map _
  | .compare op name operand, opened => by
    refine refused_of_leaf t dropped rfl (fun left => ?_) fun part => ?_
    · rw [compileWithin, if_pos (by simpa [contributes] using left)]
    · rw [compileWithin, if_neg (by simpa [contributes] using part)]
      cases found : t.schema.field? name with
      | none =>
        rw [show t.field name = _ by rw [Target.field, found]]
        exact .error fun _ => leafFault_unknown_iff rfl found
      | some f =>
        rw [Target.field_eq_ok found]
        exact ((compileCompare_refused t.missingAlias op f operand _).bind_ok some).congr fun _ =>
          leafFault_compare_iff found
  | .missing name, opened => by
    refine refused_of_leaf t dropped rfl (fun left => ?_) fun part => ?_
    · rw [compileWithin, if_pos (by simpa [contributes] using left)]
    · rw [compileWithin, if_neg (by simpa [contributes] using part)]
      cases found : t.schema.field? name with
      | none =>
        rw [show t.field name = _ by rw [Target.field, found]]
        exact .error fun _ => leafFault_unknown_iff rfl found
      | some f =>
        rw [Target.field_eq_ok found]
        exact .ok _ fun _ => not_leafFault_missing found
  | .search keyword fields, opened => by
    rw [compileWithin]
    refine refused_of_leaf t dropped rfl (fun blank => ?_) fun worded => ?_
    · rw [compileSearch, if_pos (by simpa [contributes] using blank)]
    · exact compileSearch_refused (by simpa [contributes] using worded) fields

/-- Several filters are refused for the first fault of all their leaves. -/
theorem compileEach_refused : (children : List (Filter R)) → (opened : List String) →
    RefusedFor (compileEach t dropped children opened)
      (FirstFault (LeafFault t) ((leaves.leavesOf children).filter (·.contributes dropped)))
  | [], _ => .ok _ fun fault h => by cases h
  | child :: rest, opened => by
    rw [compileEach, leaves.leavesOf, List.filter_append]
    refine (RefusedFor.bind (compileWithin_refused child opened) fun clause _ =>
      (compileEach_refused rest opened).bind_ok fun clauses => clause.toList ++ clauses).congr fun fault => ?_
    exact FirstFault.append_iff

end

theorem compileOptional_refused (f : Option (Filter R)) :
    RefusedFor (compileOptional t dropped f)
      (FirstFault (LeafFault t) (f.toList.flatMap (·.takingPart dropped))) := by
  cases f with
  | none => exact .ok _ fun fault h => by cases h
  | some f =>
    refine (compileWithin_refused t dropped f []).congr fun fault => ?_
    rw [Option.toList_some, List.flatMap_singleton]

/-- Compiling a filter beside a restriction fails exactly when a leaf that is asked has a fault. The error is that
the filter is invalid, by the fault of the first such leaf. -/
theorem compile_eq_error_iff (user : Option (Filter R)) (excludeField : Option String) (filterSelf : Bool)
    (extra : Option (Filter R)) :
    (∀ e, compile t user excludeField filterSelf extra = .error e ↔ ∃ fault, e = .invalidFilter fault ∧
      FirstFault (LeafFault t) (asked user excludeField filterSelf extra) fault) ∧
    ((∃ e, compile t user excludeField filterSelf extra = .error e) ↔
      ∃ leaf ∈ asked user excludeField filterSelf extra, ∃ fault, LeafFault t leaf fault) := by
  have refused : RefusedFor (compile t user excludeField filterSelf extra)
      (FirstFault (LeafFault t) (asked user excludeField filterSelf extra)) := by
    rw [compile_eq]
    refine (RefusedFor.bind (compileOptional_refused t (leftOut excludeField filterSelf) user) fun own _ =>
      (compileOptional_refused t none extra).bind_ok (joined own)).congr fun fault => ?_
    exact FirstFault.append_iff
  refine ⟨refused, ?_⟩
  rw [← FirstFault.exists_iff]
  constructor
  · rintro ⟨e, failed⟩
    obtain ⟨fault, -, first⟩ := (refused e).mp failed
    exact ⟨fault, first⟩
  · rintro ⟨fault, first⟩
    exact ⟨_, (refused _).mpr ⟨fault, rfl, first⟩⟩

/-- The age is left out and the keyword is blank, so the first fault is that of the colour. -/
example : compile Sample.visitTarget
    (some (.allOf [.compare .eq "age" (.str "old"), .search " " ["nowhere"],
      .anyOf [equals "colour" "red", .missing "weight"]] : Filter Rat))
    (some "age") false (some (isIn "height" [])) = .error (.invalidFilter (.unknownField "colour" "subject")) := rfl

end Filter

end TieredSearch
