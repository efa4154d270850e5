import TieredSearch.Filter.Reader
import TieredSearch.Filter.Writing
import TieredSearch.Proofs.Filter.Refusal

/-!
# Reading written filters

`Filter.ofJson` reads the JSON form of a filter and `Filter.Writes` is the grammar of that form. The two
agree value by value (`Filter.ofJson_eq_some_iff`), by induction on the value: a member of an object is read
by what its key announces, a list item by item.

* A key is read as the head that it spells (`Filter.Head.ofKey?_eq_some_iff`), in any case.
* What the grammar does not write is no filter at all, or is refused as an invalid one
  (`Filter.ofJson_failsOnly`).
* Every filter without a missing-field test can be written, and nothing else is
  (`Filter.isWritable_of_writes`, `Filter.exists_writes`).
-/

namespace TieredSearch

variable {R : Type}

/-! ### Keys -/

theorem Operator.ofText?_eq_some_iff {text : String} {op : Operator} :
    ofText? text = some op ↔ Text.lowerAscii text ∈ op.spellings := by
  unfold ofText?
  generalize Text.lowerAscii text = name
  constructor
  · intro h
    split at h <;> cases h <;> simp [spellings]
  · intro h
    cases op with
    | range b =>
      cases b
      all_goals
        simp only [spellings, List.mem_cons, List.not_mem_nil, or_false] at h
        rcases h with rfl | rfl <;> rfl
    | among =>
      cases List.mem_singleton.mp h
      rfl
    | _ =>
      simp only [spellings, List.mem_cons, List.not_mem_nil, or_false] at h
      rcases h with rfl | rfl <;> rfl

namespace Filter

namespace Head

/-- The names of a head. -/
def spellings : Head → List String
  | .all => ["and"]
  | .any => ["or"]
  | .search => ["search"]
  | .compare op => op.spellings

/-- A key announces the head it spells, in any case. -/
theorem ofKey?_eq_some_iff {key : String} {head : Head} :
    ofKey? key = some head ↔ Text.lowerAscii key ∈ head.spellings := by
  unfold ofKey?
  constructor
  · intro h
    split at h
    next named =>
      cases h
      exact List.mem_singleton.mpr named
    next named =>
      cases h
      exact List.mem_singleton.mpr named
    next named =>
      cases h
      exact List.mem_singleton.mpr named
    next =>
      obtain ⟨op, known, rfl⟩ := Option.map_eq_some_iff.mp h
      exact Operator.ofText?_eq_some_iff.mp known
  · intro named
    cases head with
    | compare op =>
      have known := Operator.ofText?_eq_some_iff.mpr named
      -- no operator goes by the name of another head
      have apart : ∀ name ∈ op.spellings, name ≠ "and" ∧ name ≠ "or" ∧ name ≠ "search" := by
        cases op with
        | range b => cases b <;> decide
        | _ => decide
      obtain ⟨h₁, h₂, h₃⟩ := apart _ named
      split
      · contradiction
      · contradiction
      · contradiction
      · rw [known, Option.map_some]
    | _ => simp only [List.mem_singleton.mp named]

end Head

/-! ### Leaves -/

theorem mapM_str?_eq_some_iff {items : List (Json R)} {texts : List String} :
    items.mapM Json.str? = some texts ↔ items = texts.map .str := by
  induction items generalizing texts with
  | nil => cases texts <;> simp
  | cons item items ih =>
    rw [List.mapM_cons]
    constructor
    · intro h
      obtain ⟨text, first, h⟩ := Option.bind_eq_some_iff.mp h
      obtain ⟨others, rest, same⟩ := Option.bind_eq_some_iff.mp h
      cases item <;> cases first
      cases same
      rw [ih.mp rest, List.map_cons]
    · intro h
      cases texts with
      | nil => cases h
      | cons text texts =>
        obtain ⟨rfl, others⟩ := List.cons.inj h
        rw [ih.mpr others]
        rfl

/-- The fields of a keyword search are read as they are written. -/
theorem searchFields_eq_ok_iff {member : Option (Json R)} {fields : List String} :
    searchFields member = .ok fields ↔ WritesFields member fields := by
  constructor
  · intro h
    unfold searchFields at h
    split at h
    · cases h
      exact .absent
    · cases h
      exact .null
    · cases h
      exact .single _
    next items =>
      split at h
      next fields named =>
        cases h
        rw [mapM_str?_eq_some_iff.mp named]
        exact .list _
      next => cases h
    next => cases h
  · intro h
    cases h with
    | absent => rfl
    | null => rfl
    | single field => rfl
    | list fields =>
      have named : (fields.map Json.str : List (Json R)).mapM Json.str? = some fields :=
        mapM_str?_eq_some_iff.mpr rfl
      simp only [searchFields, Json.texts, named]

/-- A keyword search is read off an object with a keyword, whatever other members it has. -/
theorem ofSearchBody_eq_ok_iff {body : Json R} {f : Filter R} :
    ofSearchBody body = .ok f ↔ ∃ members keyword fields, body = .obj members ∧
      Json.lookup "keyword" members = some (.str keyword) ∧
      WritesFields (Json.lookup "fields" members) fields ∧ f = .search keyword fields := by
  constructor
  · intro h
    unfold ofSearchBody at h
    split at h
    next => cases h
    next keyword word =>
      obtain ⟨fields, named, rfl⟩ := map_eq_ok_iff.mp h
      cases body with
      | obj members =>
        obtain ⟨v, found, text⟩ := Option.bind_eq_some_iff.mp word
        cases v <;> cases text
        exact ⟨members, keyword, fields, rfl, found, searchFields_eq_ok_iff.mp named, rfl⟩
      | _ => cases word
  · rintro ⟨members, keyword, fields, rfl, word, named, rfl⟩
    have read := searchFields_eq_ok_iff.mpr named
    simp only [ofSearchBody, Json.get?, word, Option.bind_some, Json.str?, read]
    rfl

/-- A comparison is read off an object with one member. -/
theorem ofOperandBody_eq_ok_iff {key : String} {op : Operator} {body : Json R} {f : Filter R} :
    ofOperandBody key op body = .ok f ↔
      ∃ field operand, body = .obj [(field, operand)] ∧ f = .compare op field operand := by
  constructor
  · intro h
    unfold ofOperandBody at h
    split at h
    next field operand =>
      cases h
      exact ⟨field, operand, rfl, rfl⟩
    next => cases h
    next => cases h
  · rintro ⟨field, operand, rfl, rfl⟩
    rfl

/-! ### Trees -/

variable [Scalar R]

/-- Nothing but null and the empty object writes no filter. -/
theorem ofJson_eq_none_iff {v : Json R} : ofJson v = .ok none ↔ v = .null ∨ v = .obj [] := by
  constructor
  · intro h
    cases v with
    | null => exact .inl rfl
    | obj members =>
      match members with
      | [] => exact .inr rfl
      | [(key, body)] =>
        rw [ofJson] at h
        split at h
        all_goals first | cases h | (obtain ⟨_, _, ⟨⟩⟩ := map_eq_ok_iff.mp h)
      | _ :: _ :: _ => cases h
    | _ => cases h
  · rintro (rfl | rfl) <;> rfl

omit [Scalar R] in
theorem isBlankForm_iff {v : Json R} : isBlankForm v = true ↔ v = .null ∨ v = .obj [] := by
  cases v with
  | obj members => cases members <;> simp [isBlankForm]
  | _ => simp [isBlankForm]

mutual

/-- A value is read as a filter exactly when it writes the filter. -/
theorem ofJson_eq_some_iff : (v : Json R) → (f : Filter R) → (ofJson v = .ok (some f) ↔ Writes v f)
  | .obj [(key, body)], f => by
    rw [ofJson]
    constructor
    · intro h
      split at h
      next announced =>
        obtain ⟨children, read, same⟩ := map_eq_ok_iff.mp h
        cases same
        exact .allOf (List.mem_singleton.mp (Head.ofKey?_eq_some_iff.mp announced))
          ((childrenOf_eq_ok_iff key body children).mp read)
      next announced =>
        obtain ⟨children, read, same⟩ := map_eq_ok_iff.mp h
        cases same
        exact .anyOf (List.mem_singleton.mp (Head.ofKey?_eq_some_iff.mp announced))
          ((childrenOf_eq_ok_iff key body children).mp read)
      next announced =>
        obtain ⟨leaf, read, same⟩ := map_eq_ok_iff.mp h
        cases same
        obtain ⟨members, keyword, fields, rfl, word, named, rfl⟩ := ofSearchBody_eq_ok_iff.mp read
        exact .search (List.mem_singleton.mp (Head.ofKey?_eq_some_iff.mp announced)) word named
      next op announced =>
        obtain ⟨leaf, read, same⟩ := map_eq_ok_iff.mp h
        cases same
        obtain ⟨field, operand, rfl, rfl⟩ := ofOperandBody_eq_ok_iff.mp read
        exact .compare field operand (Head.ofKey?_eq_some_iff.mp announced)
      next => cases h
    · intro h
      cases h with
      | allOf spelled inner =>
        have announced : Head.ofKey? key = some .all :=
          Head.ofKey?_eq_some_iff.mpr (List.mem_singleton.mpr spelled)
        have read := (childrenOf_eq_ok_iff key body _).mpr inner
        simp only [announced, read, Except.map]
      | anyOf spelled inner =>
        have announced : Head.ofKey? key = some .any :=
          Head.ofKey?_eq_some_iff.mpr (List.mem_singleton.mpr spelled)
        have read := (childrenOf_eq_ok_iff key body _).mpr inner
        simp only [announced, read, Except.map]
      | compare field operand spelled =>
        have announced : Head.ofKey? key = some (.compare _) := Head.ofKey?_eq_some_iff.mpr spelled
        simp only [announced, ofOperandBody, Except.map]
      | search spelled word named =>
        have announced : Head.ofKey? key = some .search :=
          Head.ofKey?_eq_some_iff.mpr (List.mem_singleton.mpr spelled)
        have read := ofSearchBody_eq_ok_iff.mpr ⟨_, _, _, rfl, word, named, rfl⟩
        simp only [announced, read, Except.map]
  | .obj [], _ | .obj (_ :: _ :: _), _ | .null, _ | .bool _, _ | .int _, _ | .real _, _ | .str _, _ | .arr _, _ => by
    constructor
    · intro h
      cases h
    · intro h
      cases h

theorem childrenOf_eq_ok_iff (key : String) : (body : Json R) → (children : List (Filter R)) →
    (childrenOf key body = .ok children ↔ WritesChildren body children)
  | .arr items, children => by
    rw [childrenOf, ofItems_eq_ok_iff items children]
    constructor
    · exact .list
    · intro h
      cases h with
      | list inner => exact inner
  | .null, children => by
    rw [childrenOf]
    constructor
    · intro h
      cases h
      exact .null
    · intro h
      cases h
      rfl
  | .bool _, _ | .int _, _ | .real _, _ | .str _, _ | .obj _, _ => by
    constructor
    · intro h
      cases h
    · intro h
      cases h

theorem ofItems_eq_ok_iff : (items : List (Json R)) → (children : List (Filter R)) →
    (ofItems items = .ok children ↔ WritesItems items children)
  | [], children => by
    rw [ofItems]
    constructor
    · intro h
      cases h
      exact .nil
    · intro h
      cases h
      rfl
  | item :: rest, children => by
    have first := ofJson_eq_some_iff item
    rw [ofItems]
    constructor
    · intro h
      split at h
      next => cases h
      next blank =>
        have empty := isBlankForm_iff.mpr (ofJson_eq_none_iff.mp blank)
        exact .blank empty ((ofItems_eq_ok_iff rest children).mp h)
      next child read =>
        obtain ⟨others, rest', same⟩ := map_eq_ok_iff.mp h
        cases same
        exact .child ((first child).mp read) ((ofItems_eq_ok_iff rest others).mp rest')
    · intro h
      cases h with
      | blank empty inner =>
        have blank := ofJson_eq_none_iff.mpr (isBlankForm_iff.mp empty)
        simp only [blank, (ofItems_eq_ok_iff rest children).mpr inner]
      | child written inner =>
        simp only [(first _).mpr written, (ofItems_eq_ok_iff rest _).mpr inner, Except.map]

end

/-! ### Refusal -/

omit [Scalar R] in
theorem searchFields_failsOnly (member : Option (Json R)) : FailsOnly Invalid (searchFields member) := by
  unfold searchFields
  split
  · exact .ok _
  · exact .ok _
  · exact .ok _
  · split
    · exact .ok _
    · exact .error ⟨_, rfl⟩
  · exact .error ⟨_, rfl⟩

omit [Scalar R] in
theorem ofSearchBody_failsOnly (body : Json R) : FailsOnly Invalid (ofSearchBody body) := by
  unfold ofSearchBody
  split
  · exact .error ⟨_, rfl⟩
  · exact (searchFields_failsOnly _).map _

omit [Scalar R] in
theorem ofOperandBody_failsOnly (key : String) (op : Operator) (body : Json R) :
    FailsOnly Invalid (ofOperandBody key op body) := by
  unfold ofOperandBody
  split
  · exact .ok _
  · exact .error ⟨_, rfl⟩
  · exact .error ⟨_, rfl⟩

mutual

/-- A value that cannot be read is refused as an invalid filter, at whatever depth the fault is. -/
theorem ofJson_failsOnly : (v : Json R) → FailsOnly Invalid (ofJson v)
  | .obj [(key, body)] => by
    rw [ofJson]
    split
    · exact (childrenOf_failsOnly key body).map _
    · exact (childrenOf_failsOnly key body).map _
    · exact (ofSearchBody_failsOnly body).map _
    · exact (ofOperandBody_failsOnly key _ body).map _
    · exact .error ⟨_, rfl⟩
  | .obj [] => .ok _
  | .null => .ok _
  | .obj (_ :: _ :: _) | .bool _ | .int _ | .real _ | .str _ | .arr _ => .error ⟨_, rfl⟩

theorem childrenOf_failsOnly (key : String) : (body : Json R) → FailsOnly Invalid (childrenOf key body)
  | .arr items => ofItems_failsOnly items
  | .null => .ok _
  | .obj _ | .bool _ | .int _ | .real _ | .str _ => .error ⟨_, rfl⟩

theorem ofItems_failsOnly : (items : List (Json R)) → FailsOnly Invalid (ofItems items)
  | [] => .ok _
  | item :: rest => by
    have first := ofJson_failsOnly item
    rw [ofItems]
    split
    next e refused => exact .error (first e refused)
    next => exact ofItems_failsOnly rest
    next => exact (ofItems_failsOnly rest).map _

end

/-! ### What can be written -/

omit [Scalar R]

mutual

theorem isWritable_of_writes : {v : Json R} → {f : Filter R} → Writes v f → f.isWritable = true
  | _, _, .allOf _ inner => areWritable_of_writesChildren inner
  | _, _, .anyOf _ inner => areWritable_of_writesChildren inner
  | _, _, .compare _ _ _ => rfl
  | _, _, .search _ _ _ => rfl

theorem areWritable_of_writesChildren :
    {body : Json R} → {children : List (Filter R)} → WritesChildren body children →
      areWritable children = true
  | _, _, .null => rfl
  | _, _, .list inner => areWritable_of_writesItems inner

theorem areWritable_of_writesItems :
    {items : List (Json R)} → {children : List (Filter R)} → WritesItems items children →
      areWritable children = true
  | _, _, .nil => rfl
  | _, _, .blank _ rest => areWritable_of_writesItems rest
  | _, _, .child first rest => by
    rw [areWritable, isWritable_of_writes first, areWritable_of_writesItems rest]
    rfl

end

mutual

/-- Every filter without a missing-field test can be written. -/
theorem exists_writes : (f : Filter R) → f.isWritable = true → ∃ v, Writes v f
  | .allOf children, writable => by
    obtain ⟨items, inner⟩ := exists_writesItems children writable
    exact ⟨.obj [("and", .arr items)], .allOf rfl (.list inner)⟩
  | .anyOf children, writable => by
    obtain ⟨items, inner⟩ := exists_writesItems children writable
    exact ⟨.obj [("or", .arr items)], .anyOf rfl (.list inner)⟩
  | .compare op field operand, _ => by
    obtain ⟨name, spelled⟩ : ∃ name, Text.lowerAscii name ∈ op.spellings := by
      refine ⟨op.name, ?_⟩
      cases op with
      | range b => cases b <;> decide
      | _ => decide
    exact ⟨_, .compare field operand spelled⟩
  | .search keyword fields, _ => by
    refine ⟨.obj [("search", .obj [("keyword", .str keyword), ("fields", Json.texts fields)])], ?_⟩
    exact .search rfl rfl (.list fields)
  | .missing _, writable => by cases writable

theorem exists_writesItems :
    (children : List (Filter R)) → areWritable children = true → ∃ items, WritesItems items children
  | [], _ => ⟨[], .nil⟩
  | child :: rest, writable => by
    rw [areWritable, Bool.and_eq_true] at writable
    obtain ⟨item, first⟩ := exists_writes child writable.1
    obtain ⟨items, inner⟩ := exists_writesItems rest writable.2
    exact ⟨item :: items, .child first inner⟩

end

/-! ### Reading and writing -/

/-- Reading accepts what the grammar writes and nothing else. A value is read as a filter exactly when it
writes that filter, and as no filter exactly when it is null or the empty object; every other value is
refused as an invalid filter. Written are the filters without a missing-field test, each in some way. -/
theorem ofJson_reads_what_is_written [Scalar R] :
    (∀ (v : Json R) (f : Filter R), ofJson v = .ok (some f) ↔ Writes v f) ∧
    (∀ v : Json R, ofJson v = .ok none ↔ v = .null ∨ v = .obj []) ∧
    (∀ v : Json R, (∃ fault, ofJson v = .error (.invalidFilter fault)) ↔
      (∀ f, ¬Writes v f) ∧ v ≠ .null ∧ v ≠ .obj []) ∧
    ∀ f : Filter R, f.isWritable = true ↔ ∃ v, Writes v f := by
  refine ⟨ofJson_eq_some_iff, fun v => ofJson_eq_none_iff, fun v => ?_, fun f => ?_⟩
  · constructor
    · rintro ⟨fault, refused⟩
      refine ⟨fun f written => ?_, ?_, ?_⟩
      · rw [(ofJson_eq_some_iff v f).mpr written] at refused
        cases refused
      · rintro rfl
        cases refused
      · rintro rfl
        cases refused
    · rintro ⟨unwritten, notNull, notEmpty⟩
      cases read : ofJson v with
      | error e =>
        obtain ⟨fault, rfl⟩ := ofJson_failsOnly v e read
        exact ⟨fault, rfl⟩
      | ok found =>
        cases found with
        | some f => exact absurd ((ofJson_eq_some_iff v f).mp read) (unwritten f)
        | none =>
          rcases ofJson_eq_none_iff.mp read with h | h
          · exact absurd h notNull
          · exact absurd h notEmpty
  · constructor
    · exact exists_writes f
    · rintro ⟨v, written⟩
      exact isWritable_of_writes written

/-- Blank items are passed over, and keys are read in any case. -/
example : ofJson (.obj [("And", .arr [.null, .obj [("GTE", .obj [("age", .int 10)])], .obj []])] : Json R) =
    .ok (some (.allOf [.compare (.range .gte) "age" (.int 10)])) := by
  cbv

end Filter

end TieredSearch
