import TieredSearch.Query.Matching
import TieredSearch.Schema.Field

/-!
# What the clauses select

Equations for `Query.selects` on the combinations a compiled filter is made of, and what a list of
texts selects in a document whose field holds texts.
-/

namespace TieredSearch

open Document (valuesAt textsAt holdsTexts narrowings narrow)

variable {R : Type}

/-! ### Fields that hold texts -/

namespace Document

theorem valuesAt_eq_map_textsAt {doc : Json R} {path : String} (h : holdsTexts doc path = true) :
    valuesAt doc path = (textsAt doc path).map .str := by
  unfold holdsTexts at h
  unfold textsAt
  generalize valuesAt doc path = values at h ⊢
  induction values with
  | nil => rfl
  | cons v rest ih =>
    rw [List.all_cons, Bool.and_eq_true] at h
    cases v with
    | str s => simp only [List.filterMap_cons, Json.str?, List.map_cons, ← ih h.2]
    | _ => exact absurd h.1 (by simp [Json.str?])

/-- Whether a document has no value of a field, neither as a whole nor seen from an element of the
nested objects around the field. -/
def lacks (f : Field) (doc : Json R) : Bool :=
  (valuesAt doc f.name).isEmpty && (narrowings f.nestedPath doc).all fun view =>
    (valuesAt view f.name).isEmpty

theorem narrowings_append (ps qs : List String) (doc : Json R) :
    narrowings (ps ++ qs) doc = (narrowings ps doc).flatMap (narrowings qs) := by
  induction ps generalizing doc with
  | nil => simp [narrowings]
  | cons p ps ih => simp only [List.cons_append, narrowings, List.flatMap_assoc, ih]

end Document

/-! ### Combinations -/

namespace Query

variable [Scalar R]

theorem selectsAll_eq_all (qs : List (Query R)) (doc : Json R) :
    selectsAll qs doc = qs.all (·.selects doc) := by
  induction qs with
  | nil => rfl
  | cons q qs ih => rw [selectsAll, ih, List.all_cons]

theorem selectsAny_eq_any (qs : List (Query R)) (doc : Json R) :
    selectsAny qs doc = qs.any (·.selects doc) := by
  induction qs with
  | nil => rfl
  | cons q qs ih => rw [selectsAny, ih, List.any_cons]

@[simp] theorem selects_allOf (qs : List (Query R)) (doc : Json R) :
    (allOf qs).selects doc = qs.all (·.selects doc) := by
  rw [selects, selectsAll_eq_all]

theorem selects_anyOf (qs : List (Query R)) (doc : Json R) :
    (anyOf qs).selects doc = (qs.isEmpty || qs.any (·.selects doc)) := by
  rw [selects, selectsAny_eq_any]

@[simp] theorem selects_noneOf (q : Query R) (doc : Json R) :
    (noneOf q).selects doc = !q.selects doc := by
  rw [selects]

@[simp] theorem selects_present (field : String) (doc : Json R) :
    (present field).selects doc = !(valuesAt doc field).isEmpty := by
  rw [selects]

@[simp] theorem selects_terms (field : String) (operands : List String) (doc : Json R) :
    (terms field operands).selects doc =
      (valuesAt doc field).any fun v => operands.any fun s => v.equalsOperand (.str s) := by
  rw [selects]

/-- A clause inside nested scopes is asked of each chain of nested elements. -/
theorem selects_nestedIn (paths : List String) (q : Query R) (doc : Json R) :
    (nestedIn paths q).selects doc = (narrowings paths doc).any q.selects := by
  induction paths generalizing doc with
  | nil => simp [nestedIn, narrowings]
  | cons p ps ih =>
    rw [nestedIn, List.foldr_cons, selects, narrowings, List.any_flatMap]
    exact congrArg (List.any _) (funext fun element => ih _)

@[simp] theorem admits_none (doc : Json R) : admits (none : Option (Query R)) doc = true := rfl

@[simp] theorem admits_some (q : Query R) (doc : Json R) :
    admits (some q) doc = q.selects doc := rfl

@[simp] theorem all_toList (q : Option (Query R)) (doc : Json R) :
    q.toList.all (·.selects doc) = admits q doc := by
  cases q <;> simp

/-- A conjunction admits what every clause selects. -/
theorem admits_conjunction? (qs : List (Query R)) (doc : Json R) :
    admits (conjunction? qs) doc = qs.all (·.selects doc) := by
  match qs with
  | [] => rfl
  | [q] => simp [conjunction?]
  | q :: q' :: rest => simp only [conjunction?, admits_some, selects_allOf]

/-- Beside further clauses, a query admits what they select of what it admitted. -/
theorem admits_beside (q : Option (Query R)) (clauses : List (Query R)) (doc : Json R) :
    admits (conjunction? (q.toList ++ clauses)) doc =
      (admits q doc && clauses.all (·.selects doc)) := by
  rw [admits_conjunction?, List.all_append, all_toList]

end Query

/-! ### Lists of texts -/

@[simp] theorem Json.equalsOperand_str [Scalar R] (s t : String) :
    (Json.str s : Json R).equalsOperand (.str t) = (s == t) := by
  simp only [Json.equalsOperand, Json.number?, Json.same]

/-- In a field that holds texts, a list of texts selects by membership. -/
theorem Query.selects_terms_of_holdsTexts [Scalar R] {field : String} {doc : Json R}
    (h : holdsTexts doc field = true) (operands : List String) :
    (terms field operands : Query R).selects doc = (textsAt doc field).any operands.contains := by
  rw [selects_terms, Document.valuesAt_eq_map_textsAt h, List.any_map]
  refine congrArg (List.any _) (funext fun s => ?_)
  simp only [Function.comp, Json.equalsOperand_str]
  rw [Bool.eq_iff_iff]
  simp

end TieredSearch
