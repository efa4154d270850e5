import TieredSearch.Sorting
import Mathlib.Data.String.Basic
import Mathlib.Order.Lattice
import Mathlib.Tactic.SplitIfs
import Mathlib.Tactic.Tauto

/-!
# What sorting keeps and makes

`Sorting.stable` permutes its list, and puts it in the order of every key that `before` respects;
elements with equal keys keep the order they had.
The comparison need not be an order on all elements: that it agrees with the key on the list at
hand is enough.
-/

namespace TieredSearch.Sorting

variable {α β : Type} {before : α → α → Bool}

/-! ### The same elements -/

theorem place_perm (x : α) (ys : List α) : (place before x ys).Perm (x :: ys) := by
  induction ys with
  | nil => exact .refl _
  | cons y ys ih =>
    rw [place]
    split
    · exact (ih.cons y).trans (.swap x y ys)
    · exact .refl _

theorem stable_perm (xs : List α) : (stable before xs).Perm xs := by
  have fold (ys : List α) :
      (xs.foldl (fun sorted x => place before x sorted) ys).Perm (xs.reverse ++ ys) := by
    induction xs generalizing ys with
    | nil => exact .refl _
    | cons x xs ih =>
      rw [List.foldl_cons, List.reverse_cons, List.append_assoc]
      exact (ih _).trans ((place_perm x ys).append_left _)
  have sorted := fold []
  rw [List.append_nil] at sorted
  exact (List.reverse_perm _).trans (sorted.trans (List.reverse_perm xs))

@[simp] theorem mem_stable {x : α} {xs : List α} : x ∈ stable before xs ↔ x ∈ xs :=
  (stable_perm xs).mem_iff

/-! ### The order -/

variable [LinearOrder β] {key : α → β}

/-- The comparison respects a key on a list: it never goes against the key, and it decides where the
keys differ. -/
structure Respects (before : α → α → Bool) (key : α → β) (xs : List α) : Prop where
  /-- What comes before has no greater key. -/
  le_of_before : ∀ x ∈ xs, ∀ y ∈ xs, before x y = true → key x ≤ key y
  /-- What has a smaller key comes before. -/
  before_of_lt : ∀ x ∈ xs, ∀ y ∈ xs, key x < key y → before x y = true

theorem Respects.mono {xs ys : List α} (h : Respects before key ys) (sub : ∀ x ∈ xs, x ∈ ys) :
    Respects before key xs :=
  ⟨fun x hx y hy => h.le_of_before x (sub x hx) y (sub y hy),
    fun x hx y hy => h.before_of_lt x (sub x hx) y (sub y hy)⟩

theorem pairwise_place {x : α} {ys : List α} (respects : Respects before key (x :: ys))
    (sorted : ys.Pairwise fun a b => key b ≤ key a) :
    (place before x ys).Pairwise fun a b => key b ≤ key a := by
  induction ys with
  | nil => exact List.pairwise_singleton _ _
  | cons y ys ih =>
    obtain ⟨greatest, sorted⟩ := List.pairwise_cons.mp sorted
    rw [place]
    split
    next h =>
      have le := respects.le_of_before x (by simp) y (by simp) h
      have inner : Respects before key (x :: ys) :=
        respects.mono fun z hz => by simp only [List.mem_cons] at hz ⊢; tauto
      refine List.pairwise_cons.mpr ⟨fun z hz => ?_, ih inner sorted⟩
      rcases List.mem_cons.mp ((place_perm x ys).mem_iff.mp hz) with rfl | hz
      · exact le
      · exact greatest z hz
    next h =>
      have le : key y ≤ key x :=
        not_lt.mp fun lt => h (respects.before_of_lt x (by simp) y (by simp) lt)
      refine List.pairwise_cons.mpr ⟨fun z hz => ?_, List.pairwise_cons.mpr ⟨greatest, sorted⟩⟩
      rcases List.mem_cons.mp hz with rfl | hz
      · exact le
      · exact le_trans (greatest z hz) le

/-- A sorted list is in the order of every key that the comparison respects. -/
theorem stable_pairwise {xs : List α} (respects : Respects before key xs) :
    (stable before xs).Pairwise fun a b => key a ≤ key b := by
  have fold (ys zs : List α) (sub : ∀ x ∈ ys ++ zs, x ∈ xs) (sorted : zs.Pairwise fun a b => key b ≤ key a) :
      (ys.foldl (fun sorted x => place before x sorted) zs).Pairwise fun a b => key b ≤ key a := by
    induction ys generalizing zs with
    | nil => exact sorted
    | cons y ys ih =>
      rw [List.foldl_cons]
      have members : ∀ x ∈ y :: zs, x ∈ xs := fun x hx => by
        refine sub x ?_
        simp only [List.mem_cons, List.cons_append, List.mem_append] at hx ⊢
        tauto
      refine ih _ (fun x hx => ?_) (pairwise_place (respects.mono members) sorted)
      rcases List.mem_append.mp hx with hx | hx
      · exact sub x (by simp [hx])
      · exact members x ((place_perm y zs).mem_iff.mp hx)
  rw [stable, List.pairwise_reverse]
  exact fold xs [] (by simp) .nil

/-- An element is placed behind those with a greater key and before those it comes after. -/
theorem pairwise_place_of_forall {r : α → α → Prop} {x : α} {ys : List α}
    (decides : ∀ a b, before a b = true ↔ key a < key b) (later : ∀ y ∈ ys, r y x)
    (sorted : ys.Pairwise fun a b => key b < key a ∨ key b = key a ∧ r b a) :
    (place before x ys).Pairwise fun a b => key b < key a ∨ key b = key a ∧ r b a := by
  induction ys with
  | nil => exact List.pairwise_singleton _ _
  | cons y ys ih =>
    obtain ⟨first, rest⟩ := List.pairwise_cons.mp sorted
    rw [place]
    split
    next less =>
      have inner := ih (fun z hz => later z (List.mem_cons_of_mem _ hz)) rest
      refine List.pairwise_cons.mpr ⟨fun z hz => ?_, inner⟩
      rcases List.mem_cons.mp ((place_perm x ys).mem_iff.mp hz) with rfl | hz
      · exact .inl ((decides _ _).mp less)
      · exact first z hz
    next not_less =>
      have le : key y ≤ key x := not_lt.mp fun lt => not_less ((decides _ _).mpr lt)
      refine List.pairwise_cons.mpr ⟨fun z hz => ?_, sorted⟩
      have bound : key z ≤ key y := by
        rcases List.mem_cons.mp hz with rfl | hz
        · exact le_refl _
        · rcases first z hz with lt | ⟨eq, -⟩
          · exact lt.le
          · exact eq.le
      rcases (bound.trans le).lt_or_eq with lt | eq
      · exact .inl lt
      · exact .inr ⟨eq, later z hz⟩

/-- Sorting is stable: where the keys are equal, elements stay in the order they had. -/
theorem stable_pairwise_of_pairwise {r : α → α → Prop} {xs : List α}
    (decides : ∀ a b, before a b = true ↔ key a < key b) (ordered : xs.Pairwise r) :
    (stable before xs).Pairwise fun a b => key a < key b ∨ key a = key b ∧ r a b := by
  have fold (ys zs : List α) (ordered : ys.Pairwise r) (later : ∀ z ∈ zs, ∀ y ∈ ys, r z y)
      (sorted : zs.Pairwise fun a b => key b < key a ∨ key b = key a ∧ r b a) :
      (ys.foldl (fun sorted x => place before x sorted) zs).Pairwise
        fun a b => key b < key a ∨ key b = key a ∧ r b a := by
    induction ys generalizing zs with
    | nil => exact sorted
    | cons y ys ih =>
      obtain ⟨first, rest⟩ := List.pairwise_cons.mp ordered
      rw [List.foldl_cons]
      apply ih _ rest
      · intro z hz y' hy'
        rcases List.mem_cons.mp ((place_perm y zs).mem_iff.mp hz) with rfl | hz
        · exact first y' hy'
        · exact later z hz y' (List.mem_cons_of_mem _ hy')
      · exact pairwise_place_of_forall decides (fun z hz => later z hz y List.mem_cons_self) sorted
  rw [stable, List.pairwise_reverse]
  exact fold xs [] ordered (by simp) .nil

theorem filter_place {p : α → Bool} {x : α} {ys : List α}
    (apart : p x = true → ∀ y ∈ ys, p y = true → before x y = false) :
    (place before x ys).filter p = [x].filter p ++ ys.filter p := by
  induction ys with
  | nil => simp [place]
  | cons y ys ih =>
    rw [place]
    split
    next passed =>
      rw [List.filter_cons, ih fun hx z hz => apart hx z (List.mem_cons_of_mem _ hz)]
      by_cases hx : p x = true
      · -- what is passed does not have the property
        have other : ¬ p y = true := fun hy => by simp [apart hx y List.mem_cons_self hy] at passed
        simp [hx, other]
      · simp [hx, List.filter_cons]
    next =>
      rw [← List.filter_append]
      rfl

/-- Elements of which none comes before another stay in the order they had. -/
theorem filter_stable {p : α → Bool} {xs : List α}
    (apart : ∀ x ∈ xs, ∀ y ∈ xs, p x = true → p y = true → before x y = false) :
    (stable before xs).filter p = xs.filter p := by
  have fold (ys zs : List α) (sub : ∀ x ∈ ys ++ zs, x ∈ xs) :
      (ys.foldl (fun sorted x => place before x sorted) zs).filter p = (ys.filter p).reverse ++ zs.filter p := by
    induction ys generalizing zs with
    | nil => rfl
    | cons y ys ih =>
      have members : ∀ x ∈ ys ++ place before y zs, x ∈ xs := by
        intro x hx
        refine sub x ?_
        simp only [List.mem_append, (place_perm y zs).mem_iff, List.mem_cons, List.cons_append] at hx ⊢
        tauto
      have here : y ∈ xs := sub y (by simp)
      have held : ∀ z ∈ zs, z ∈ xs := fun z hz => sub z (by simp [hz])
      rw [List.foldl_cons, ih _ members, filter_place fun hy z hz => apart y here z (held z hz) hy]
      by_cases hy : p y = true <;> simp [hy]
  rw [stable, List.filter_reverse, fold xs [] (by simp), List.filter_nil, List.append_nil, List.reverse_reverse]

/-! ### Sets of texts -/

@[simp] theorem mem_add {s t : String} {ss : List String} : t ∈ add s ss ↔ t = s ∨ t ∈ ss := by
  induction ss with
  | nil => simp [add]
  | cons u rest ih =>
    rw [add]
    split_ifs with lt eq
    · simp
    · subst eq
      simp
    · simp [ih, or_left_comm]

@[simp] theorem mem_ascending {t : String} {ss : List String} : t ∈ ascending ss ↔ t ∈ ss := by
  induction ss with
  | nil => simp [ascending]
  | cons s ss ih =>
    rw [ascending, List.foldr_cons, mem_add, List.mem_cons]
    exact or_congr_right ih

theorem pairwise_add {s : String} {ss : List String} (sorted : ss.Pairwise (· < ·)) :
    (add s ss).Pairwise (· < ·) := by
  induction ss with
  | nil => exact List.pairwise_singleton _ _
  | cons t rest ih =>
    obtain ⟨least, later⟩ := List.pairwise_cons.mp sorted
    rw [add]
    split_ifs with lt eq
    · refine List.pairwise_cons.mpr ⟨fun u hu => ?_, sorted⟩
      rcases List.mem_cons.mp hu with rfl | hu
      · exact lt
      · exact lt.trans (least u hu)
    · exact sorted
    · have gt : t < s := lt_of_le_of_ne (not_lt.mp lt) (Ne.symm eq)
      refine List.pairwise_cons.mpr ⟨fun u hu => ?_, ih later⟩
      rcases mem_add.mp hu with rfl | hu
      · exact gt
      · exact least u hu

/-- A set of texts is listed in ascending order, and each text once. -/
theorem pairwise_ascending (ss : List String) : (ascending ss).Pairwise (· < ·) := by
  induction ss with
  | nil => exact .nil
  | cons s ss ih => exact pairwise_add ih

end TieredSearch.Sorting
