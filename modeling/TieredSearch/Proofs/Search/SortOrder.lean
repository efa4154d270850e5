import TieredSearch.Proofs.Filter.Refusal
import TieredSearch.Proofs.Filter.Scopes
import TieredSearch.Proofs.Schema.Walk

/-!
# What a sort order compiles to

A sort order has entries, a field and a direction each, in the order in which they are written: as the members of
one object, or one by one in the objects of a list (`SortClause.Lists`). A schema accepts an entry when the field
is one of its own and the direction is the name of one (`SortClause.Accepts`), and such an entry stands for one
clause (`SortClause.StandsFor`).

Main statement (`SortClause.compiles_entries_accepted`): a sort order compiles exactly when it has entries, in one
of the two forms, and the schema accepts them all; the clauses are then those of the entries, in order. Null asks
for no order, and anything else is an invalid sort order.

The nested objects that a clause names are the innermost ones around its field, by what the schema says of the
field. In a schema that was read off a mapping, they are the innermost ones on the way to it
(`SortClause.exists_way_of_standsFor`).
-/

namespace TieredSearch

theorem Direction.ofText?_eq_some_iff {text : String} {d : Direction} : ofText? text = some d ↔ text = d.name := by
  rw [ofText?]
  constructor
  · intro read
    split_ifs at read with ascending descending
    · cases read
      exact ascending
    · cases read
      exact descending
  · rintro rfl
    cases d <;> rfl

namespace SortClause

variable {R : Type} [Scalar R]

/-! ### Entries and clauses -/

omit [Scalar R] in
/-- `Lists order entries`: a sort order is written with these entries. -/
inductive Lists : Json R → List (String × Json R) → Prop where
  /-- They are the members of an object. -/
  | members (entries : List (String × Json R)) : Lists (.obj entries) entries
  /-- Each is the one member of an object in a list. -/
  | items (entries : List (String × Json R)) : Lists (.arr (entries.map fun entry => .obj [entry])) entries

omit [Scalar R] in
/-- The schema accepts an entry. -/
structure Accepts (s : Schema) (entry : String × Json R) : Prop where
  /-- There is a field of the name. -/
  known : ∃ f ∈ s.fields, f.name = entry.1
  /-- The direction is one of the two. -/
  directed : entry.2 = .str "asc" ∨ entry.2 = .str "desc"

omit [Scalar R] in
/-- An entry stands for a clause. -/
structure StandsFor (s : Schema) (entry : String × Json R) (c : SortClause) : Prop where
  /-- The clause sorts by the field of the entry. -/
  field : c.field = entry.1
  /-- It sorts in the direction of the entry. -/
  direction : entry.2 = .str c.direction.name
  /-- It names the innermost of the nested objects around the field, where the schema has any. -/
  nestedPath : ∃ f, s.field? entry.1 = some f ∧ c.nestedPath = f.nestedPath.getLast?

omit [Scalar R] in
/-- A clause as it is sent: its field with the direction, and with the nested objects it names. -/
theorem toJson_eq (c : SortClause) :
    (c.toJson : Json R) = .obj [(c.field, .obj (("order", .str c.direction.name) ::
      (c.nestedPath.map fun path => ("nested", .obj [("path", .str path)])).toList))] := by
  obtain ⟨field, direction, nestedPath⟩ := c
  cases nestedPath <;> rfl

omit [Scalar R] in
/-- The entries that a schema accepts are those that stand for a clause. -/
theorem exists_standsFor_iff {s : Schema} {entry : String × Json R} :
    (∃ c, StandsFor s entry c) ↔ Accepts s entry := by
  constructor
  · rintro ⟨c, -, directed, f, found, -⟩
    refine ⟨⟨f, List.mem_of_find?_eq_some found, Schema.name_of_field? found⟩, ?_⟩
    rw [directed]
    cases c.direction
    · exact .inl rfl
    · exact .inr rfl
  · rintro ⟨⟨f, member, named⟩, directed⟩
    have found : (s.field? entry.1).isSome := List.find?_isSome.mpr ⟨f, member, decide_eq_true named⟩
    obtain ⟨g, found⟩ := Option.isSome_iff_exists.mp found
    rcases directed with ascending | descending
    · exact ⟨⟨entry.1, .asc, _⟩, rfl, ascending, g, found, rfl⟩
    · exact ⟨⟨entry.1, .desc, _⟩, rfl, descending, g, found, rfl⟩

omit [Scalar R] in
/-- Entries stand for clauses, one for one, exactly when the schema accepts them all. -/
theorem exists_clauses_iff {s : Schema} {entries : List (String × Json R)} :
    (∃ clauses, List.Forall₂ (StandsFor s) entries clauses) ↔ ∀ entry ∈ entries, Accepts s entry := by
  induction entries with
  | nil => exact iff_of_true ⟨[], .nil⟩ fun _ h => by cases h
  | cons entry rest ih =>
    rw [List.forall_mem_cons, ← ih, ← exists_standsFor_iff]
    constructor
    · rintro ⟨clauses, all⟩
      cases all with
      | cons first others => exact ⟨⟨_, first⟩, _, others⟩
    · rintro ⟨⟨c, first⟩, clauses, others⟩
      exact ⟨c :: clauses, .cons first others⟩

/-! ### Compiling -/

/-- An entry compiles to the clause that it stands for. -/
theorem ofEntry_eq_ok_iff {s : Schema} {entry : String × Json R} {c : SortClause} :
    ofEntry s entry.1 entry.2 = .ok c ↔ StandsFor s entry c := by
  have named {d : Direction} : entry.2.str?.bind Direction.ofText? = some d ↔ entry.2 = .str d.name := by
    cases entry.2 <;> simp [Json.str?, Direction.ofText?_eq_some_iff]
  rw [ofEntry]
  constructor
  · intro compiled
    split at compiled
    next => cases compiled
    next f found =>
      split at compiled
      next => cases compiled
      next d read =>
        cases compiled
        exact ⟨rfl, named.mp read, f, found, rfl⟩
  · rintro ⟨sorted, directed, f, found, nested⟩
    simp only [found, named.mpr directed]
    rw [← sorted, ← nested]

/-- Entries compile to the clauses that they stand for, one for one. -/
theorem ofEntries_eq_ok_iff {s : Schema} {entries : List (String × Json R)} {clauses : List SortClause} :
    ofEntries s entries = .ok clauses ↔ List.Forall₂ (StandsFor s) entries clauses := by
  induction entries generalizing clauses with
  | nil =>
    rw [List.forall₂_nil_left_iff]
    exact ⟨fun h => by cases h; rfl, fun h => by rw [h]; rfl⟩
  | cons entry rest ih =>
    rw [ofEntries, bind_eq_ok_iff]
    constructor
    · rintro ⟨c, first, compiled⟩
      obtain ⟨others, further, same⟩ := bind_eq_ok_iff.mp compiled
      cases same
      exact .cons (ofEntry_eq_ok_iff.mp first) (ih.mp further)
    · rintro (_ | ⟨first, others⟩)
      exact ⟨_, ofEntry_eq_ok_iff.mpr first, bind_eq_ok_iff.mpr ⟨_, ih.mpr others, rfl⟩⟩

/-- The entries of a list are the members of its objects, which have one each. -/
theorem entriesOf_eq_ok_iff {items : List (Json R)} {entries : List (String × Json R)} :
    entriesOf items = .ok entries ↔ items = entries.map fun entry => .obj [entry] := by
  fun_induction entriesOf items generalizing entries with
  | case1 =>
    rw [List.nil_eq, List.map_eq_nil_iff]
    exact ⟨fun h => by cases h; rfl, fun h => by rw [h]⟩
  | case2 entry rest ih =>
    rw [map_eq_ok_iff]
    constructor
    · rintro ⟨others, read, rfl⟩
      rw [List.map_cons, ← ih.mp read]
    · intro written
      cases entries with
      | nil => cases written
      | cons first others =>
        rw [List.map_cons, List.cons.injEq] at written
        obtain ⟨same, written⟩ := written
        cases same
        exact ⟨others, ih.mpr written, rfl⟩
  | case3 item rest single =>
    constructor
    · intro read
      cases read
    · intro written
      cases entries with
      | nil => cases written
      | cons first others =>
        rw [List.map_cons, List.cons.injEq] at written
        exact absurd written.1 (single first)

/-- A sort order compiles to the clauses that its entries stand for. -/
theorem ofJson_eq_some_iff {s : Schema} {order : Json R} {clauses : List SortClause} :
    ofJson s order = .ok (some clauses) ↔
      ∃ entries, Lists order entries ∧ List.Forall₂ (StandsFor s) entries clauses := by
  constructor
  · intro compiled
    unfold ofJson at compiled
    split at compiled
    next => cases compiled
    next members =>
      obtain ⟨_, read, same⟩ := map_eq_ok_iff.mp compiled
      cases same
      exact ⟨members, .members members, ofEntries_eq_ok_iff.mp read⟩
    next items =>
      obtain ⟨entries, listed, compiled⟩ := bind_eq_ok_iff.mp compiled
      obtain ⟨_, read, same⟩ := bind_eq_ok_iff.mp compiled
      cases same
      cases entriesOf_eq_ok_iff.mp listed
      exact ⟨entries, .items entries, ofEntries_eq_ok_iff.mp read⟩
    next => cases compiled
  · rintro ⟨entries, written, each⟩
    cases written with
    | members =>
      rw [ofJson, map_eq_ok_iff]
      exact ⟨clauses, ofEntries_eq_ok_iff.mpr each, rfl⟩
    | items =>
      rw [ofJson, bind_eq_ok_iff]
      exact ⟨entries, entriesOf_eq_ok_iff.mpr rfl, bind_eq_ok_iff.mpr ⟨clauses, ofEntries_eq_ok_iff.mpr each, rfl⟩⟩

/-- Only null asks for no order. -/
theorem ofJson_eq_none_iff {s : Schema} {order : Json R} : ofJson s order = .ok none ↔ order = .null := by
  constructor
  · intro compiled
    unfold ofJson at compiled
    split at compiled
    next => rfl
    next =>
      obtain ⟨_, -, same⟩ := map_eq_ok_iff.mp compiled
      cases same
    next =>
      obtain ⟨_, -, compiled⟩ := bind_eq_ok_iff.mp compiled
      obtain ⟨_, -, same⟩ := bind_eq_ok_iff.mp compiled
      cases same
    next => cases compiled
  · rintro rfl
    rfl

/-- The two forms of a sort order compile alike. -/
theorem ofJson_items (s : Schema) (entries : List (String × Json R)) :
    ofJson s (.arr (entries.map fun entry => .obj [entry])) = ofJson s (.obj entries) := by
  have listed : entriesOf (entries.map fun entry => Json.obj [entry]) = .ok entries := entriesOf_eq_ok_iff.mpr rfl
  rw [ofJson, ofJson, listed]
  change (ofEntries s entries >>= fun clauses => pure (some clauses)) = _
  cases ofEntries s entries <;> rfl

/-! ### Nested objects -/

omit [Scalar R] in
/-- A field of a schema that was read off a mapping lies at the end of a way into the properties, and a clause that
sorts by it names the innermost nested objects on the way. -/
theorem exists_way_of_standsFor [Scalar R] {index : String} {docType : Option String} {w : Schema.Walk}
    {mapping : Json R} {s : Schema} (built : Schema.ofMapping index docType w mapping = .ok s)
    {entry : String × Json R} {c : SortClause} (stands : StandsFor s entry c) :
    ∃ properties above name node, Schema.properties? docType mapping = .ok properties ∧
      Schema.Leads properties above name node ∧ c.field = Schema.pathTo above name ∧
      c.nestedPath = (Schema.nestedAbove above).getLast? := by
  obtain ⟨sorted, -, f, found, nested⟩ := stands
  obtain ⟨properties, read, same⟩ := bind_eq_ok_iff.mp built
  cases same
  have declared := (Schema.lastDeclared_sublist _).mem (List.mem_of_find?_eq_some found)
  obtain ⟨above, name, node, leads, describes⟩ := (Schema.mem_declaredIn_iff_describes w properties f).mp declared
  refine ⟨properties, above, name, node, read, leads, ?_, by rw [nested, describes.nestedPath]⟩
  rw [sorted, ← Schema.name_of_field? found, describes.name]

/-- Null compiles to no order. A sort order compiles to clauses exactly when it is an object, or a list of objects
with one member each, and every field is in the schema and every direction is ascending or descending; the clauses
are those of its entries, in order, and the two forms of it compile alike. Each clause is sent with its field, its
direction and the innermost nested objects around the field, if it has any. Any other sort order is invalid. -/
theorem compiles_entries_accepted (s : Schema) :
    ofJson s (.null : Json R) = .ok none ∧
    (∀ (order : Json R) (clauses : List SortClause), ofJson s order = .ok (some clauses) ↔
      ∃ entries, Lists order entries ∧ List.Forall₂ (StandsFor s) entries clauses) ∧
    (∀ order : Json R, (∃ clauses, ofJson s order = .ok (some clauses)) ↔
      ∃ entries, Lists order entries ∧ ∀ entry ∈ entries, Accepts s entry) ∧
    (∀ c : SortClause, (c.toJson : Json R) = .obj [(c.field, .obj (("order", .str c.direction.name) ::
      (c.nestedPath.map fun path => ("nested", .obj [("path", .str path)])).toList))]) ∧
    (∀ order : Json R, order.isNull = false →
      (¬∃ entries, Lists order entries ∧ ∀ entry ∈ entries, Accepts s entry) →
      ∃ fault, ofJson s order = .error (.invalidSort fault)) ∧
    ∀ entries : List (String × Json R),
      ofJson s (.obj entries) = ofJson s (.arr (entries.map fun entry => .obj [entry])) := by
  have accepted (order : Json R) : (∃ clauses, ofJson s order = .ok (some clauses)) ↔
      ∃ entries, Lists order entries ∧ ∀ entry ∈ entries, Accepts s entry := by
    simp only [ofJson_eq_some_iff, ← exists_clauses_iff]
    rw [exists_comm]
    simp only [exists_and_left]
  refine ⟨rfl, fun _ _ => ofJson_eq_some_iff, accepted, toJson_eq, fun order given refused => ?_,
    fun entries => (ofJson_items s entries).symm⟩
  cases compiled : ofJson s order with
  | ok found =>
    cases found with
    | none =>
      rw [ofJson_eq_none_iff.mp compiled] at given
      cases given
    | some clauses => exact absurd ((accepted order).mp ⟨clauses, compiled⟩) refused
  | error e =>
    obtain ⟨fault, rfl⟩ := ofJson_failsOnly s order e compiled
    exact ⟨fault, rfl⟩

end SortClause

/-- The highest results first and then by gender, written as a list. -/
def Sample.byResult : List (String × Json Rat) := [("visits.labs.result", .str "desc"), ("gender", .str "asc")]

open TieredSearch.SortClause in
/-- The results are sorted by within the laboratory, and the gender outside of all nested objects. A direction in
capital letters is refused. -/
theorem results_sorted_within_labs :
    ofJson Sample.visitTarget.schema (.arr (Sample.byResult.map fun entry => .obj [entry])) =
      .ok (some [⟨"visits.labs.result", .desc, some "visits.labs"⟩, ⟨"gender", .asc, none⟩]) ∧
    ((⟨"visits.labs.result", .desc, some "visits.labs"⟩ : SortClause).toJson : Json Rat) =
      .obj [("visits.labs.result",
        .obj [("order", .str "desc"), ("nested", .obj [("path", .str "visits.labs")])])] ∧
    ∃ fault, ofJson Sample.visitTarget.schema (.obj [("gender", .str "DESC")] : Json Rat) =
      .error (.invalidSort fault) := by
  obtain ⟨-, compiles, -, sent, refused, -⟩ := compiles_entries_accepted (R := Rat) Sample.visitTarget.schema
  refine ⟨(compiles _ _).mpr ⟨Sample.byResult, .items _, ?_⟩, sent _, refused _ rfl ?_⟩
  · exact .cons ⟨rfl, rfl, _, rfl, rfl⟩ (.cons ⟨rfl, rfl, _, rfl, rfl⟩ .nil)
  · rintro ⟨_, ⟨⟩, accepted⟩
    rcases (accepted _ List.mem_cons_self).directed with ascending | descending
    · exact absurd ascending (by simp)
    · exact absurd descending (by simp)

end TieredSearch
