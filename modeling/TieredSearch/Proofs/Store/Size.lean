import TieredSearch.Store

/-!
# How much a store holds

The values of a field are parts of the document, so `Json.size` bounds how many there are. Hence
`Store.size` bounds the number of keys that a listing of terms has to page through, and every count
in it (`length_flatMap_termKeys_le`), and the number of numbers that statistics are taken over
(`length_flatMap_numbersAt_le`).
-/

namespace TieredSearch

variable {R : Type}

namespace Json

theorem size_pos (v : Json R) : 0 < v.size := by
  cases v <;> simp only [size] <;> omega

theorem length_le_sizeItems (vs : List (Json R)) : vs.length ≤ sizeItems vs := by
  induction vs with
  | nil => exact Nat.le_refl _
  | cons v vs ih =>
    have := size_pos v
    rw [List.length_cons, sizeItems]
    omega

theorem sizeItems_append (vs ws : List (Json R)) :
    sizeItems (vs ++ ws) = sizeItems vs + sizeItems ws := by
  induction vs with
  | nil => simp [sizeItems]
  | cons v vs ih => rw [List.cons_append, sizeItems, sizeItems, ih, Nat.add_assoc]

theorem sizeItems_filter_le (p : Json R → Bool) (vs : List (Json R)) :
    sizeItems (vs.filter p) ≤ sizeItems vs := by
  induction vs with
  | nil => exact Nat.le_refl _
  | cons v vs ih =>
    rw [List.filter_cons, sizeItems]
    split
    · rw [sizeItems]
      omega
    · omega

/-- Taking each value apart makes nothing larger. -/
theorem sizeItems_flatMap_le {f : Json R → List (Json R)} (h : ∀ v, sizeItems (f v) ≤ v.size)
    (vs : List (Json R)) : sizeItems (vs.flatMap f) ≤ sizeItems vs := by
  induction vs with
  | nil => exact Nat.le_refl _
  | cons v vs ih =>
    have := h v
    rw [List.flatMap_cons, sizeItems_append, sizeItems]
    omega

theorem size_le_of_lookup {key : String} {members : List (String × Json R)} {v : Json R}
    (h : lookup key members = some v) : v.size ≤ sizeMembers members := by
  induction members with
  | nil => cases h
  | cons member rest ih =>
    obtain ⟨k, w⟩ := member
    rw [lookup] at h
    rw [sizeMembers]
    split at h
    · cases h
      omega
    · have := ih h
      omega

theorem size_lt_of_get? {key : String} {v w : Json R} (h : v.get? key = some w) :
    w.size < v.size := by
  cases v with
  | obj members =>
    have := size_le_of_lookup h
    rw [size]
    omega
  | _ => cases h

end Json

open Json (sizeItems)

namespace Document

theorem sizeItems_spread_le (v : Json R) : sizeItems (spread v) ≤ v.size := by
  cases v with
  | arr items =>
    rw [spread, Json.size]
    omega
  | _ => exact Nat.le_refl _

theorem sizeItems_child_le (segment : String) (v : Json R) :
    sizeItems (child segment v) ≤ v.size := by
  unfold child
  split
  · exact Nat.zero_le _
  · exact Nat.zero_le _
  next w _ h =>
    have := sizeItems_spread_le w
    have := Json.size_lt_of_get? h
    omega

theorem sizeItems_descend_le (segments : List String) (values : List (Json R)) :
    sizeItems (segments.foldl descend values) ≤ sizeItems values := by
  induction segments generalizing values with
  | nil => exact Nat.le_refl _
  | cons segment segments ih =>
    refine Nat.le_trans (ih _) ?_
    exact Nat.le_trans (Json.sizeItems_flatMap_le sizeItems_spread_le _)
      (Json.sizeItems_flatMap_le (sizeItems_child_le segment) _)

/-- A document has no more values of a field than it holds values. -/
theorem length_valuesAt_le (doc : Json R) (path : String) :
    (valuesAt doc path).length ≤ doc.size := by
  refine Nat.le_trans (Json.length_le_sizeItems _) ?_
  refine Nat.le_trans (Json.sizeItems_filter_le _ _) ?_
  exact sizeItems_descend_le (segments path) [doc]

end Document

namespace Store

open Document (valuesAt)

theorem sizeItems_le_size {st : Store R} {entry : String × List (Json R)} (h : entry ∈ st.indices) :
    sizeItems entry.2 ≤ st.size := by
  unfold size
  generalize st.indices = entries at h ⊢
  induction entries with
  | nil => cases h
  | cons first rest ih =>
    rw [List.foldr_cons]
    rcases List.mem_cons.mp h with rfl | h
    · exact Nat.le_add_right _ _
    · exact Nat.le_trans (ih h) (Nat.le_add_left _ _)

theorem sizeItems_documents_le (st : Store R) (index : String) :
    sizeItems (st.documents index) ≤ st.size := by
  unfold documents
  split
  next docs h => exact sizeItems_le_size (List.mem_of_find?_eq_some h)
  next => exact Nat.zero_le _

variable [Scalar R]

theorem sizeItems_selected_le (st : Store R) (index : String) (query : Option (Query R)) :
    sizeItems (st.selected index query) ≤ st.size :=
  Nat.le_trans (Json.sizeItems_filter_le _ _) (st.sizeItems_documents_le index)

theorem length_withoutRepeatsOf_le (v : Json R) (vs : List (Json R)) :
    (withoutRepeatsOf v vs).length ≤ vs.length := by
  induction vs generalizing v with
  | nil => exact Nat.le_refl _
  | cons w vs ih =>
    rw [withoutRepeatsOf]
    split
    · exact Nat.le_succ_of_le (ih v)
    · exact Nat.succ_le_succ (ih w)

theorem length_termKeys_le (field : String) (doc : Json R) :
    (termKeys field doc).length ≤ doc.size := by
  have values := Document.length_valuesAt_le doc field
  have positive := Json.size_pos doc
  unfold termKeys
  cases h : valuesAt doc field with
  | nil => exact positive
  | cons v vs =>
    have := length_withoutRepeatsOf_le v vs
    rw [h, List.length_cons] at values
    simp only [withoutRepeats, List.length_cons]
    omega

/-- A store bounds the number of times its documents are counted under a key. -/
theorem length_flatMap_termKeys_le (field : String) (docs : List (Json R)) :
    (docs.flatMap (termKeys field)).length ≤ sizeItems docs := by
  induction docs with
  | nil => exact Nat.le_refl _
  | cons doc docs ih =>
    have := length_termKeys_le field doc
    rw [List.flatMap_cons, List.length_append, sizeItems]
    omega

/-- A store bounds the number of numbers its documents hold in a field. -/
theorem length_flatMap_numbersAt_le (field : String) (docs : List (Json R)) :
    (docs.flatMap (Document.numbersAt · field)).length ≤ sizeItems docs := by
  induction docs with
  | nil => exact Nat.le_refl _
  | cons doc docs ih =>
    have values := Document.length_valuesAt_le doc field
    have numbers : (Document.numbersAt doc field).length ≤ (valuesAt doc field).length :=
      List.length_filterMap_le _ _
    rw [List.flatMap_cons, List.length_append, sizeItems]
    omega

end Store

end TieredSearch
