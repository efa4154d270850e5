import TieredSearch.Proofs.Query.Selection
import TieredSearch.Proofs.Sorting
import TieredSearch.Proofs.Store.Size
import Mathlib.Data.String.Basic
import Mathlib.Order.WithBot
import Mathlib.Algebra.GroupWithZero.Nat
import Mathlib.Algebra.Order.BigOperators.Group.List
import Mathlib.Algebra.Order.Group.Nat

/-!
# The keys a store counts

A listing of terms counts each document under the values of a field, or under null. Null and texts
are the keys that a field of texts can have (`IsTermKey`); on them equality of values is equality,
and the order of values is that of texts with null in front (`keyRank`).

* `exists_mem_termCounts_iff`: the term keys that are counted are those of the documents, whatever
  else the field holds.
* `termCounts_pairwise`: where the field holds texts, the keys are listed in strictly ascending
  order.
* `termCounts_null_first`: a key for documents without a value comes first, whatever else the field
  holds.
-/

namespace TieredSearch

open Document (valuesAt textsAt holdsTexts)
open Json (sizeItems)

namespace Store

variable {R : Type}

/-! ### Term keys -/

/-- A key that a field of texts is listed under. -/
def IsTermKey (k : Json R) : Prop := k = .null ∨ ∃ s, k = .str s

theorem isTermKey_null : IsTermKey (.null : Json R) := .inl rfl

theorem isTermKey_str (s : String) : IsTermKey (.str s : Json R) := .inr ⟨s, rfl⟩

/-- The place of a term key in the order of values. -/
def keyRank : Json R → WithBot String
  | .str s => s
  | _ => ⊥

theorem keyRank_injective {a b : Json R} (ha : IsTermKey a) (hb : IsTermKey b)
    (h : keyRank a = keyRank b) : a = b := by
  rcases ha with rfl | ⟨s, rfl⟩ <;> rcases hb with rfl | ⟨t, rfl⟩
  · rfl
  · exact absurd h (WithBot.bot_ne_coe)
  · exact absurd h (WithBot.coe_ne_bot)
  · exact congrArg _ (WithBot.coe_injective h)

variable [Scalar R]

theorem same_iff_eq {key : Json R} (h : IsTermKey key) (k : Json R) :
    k.same key = true ↔ k = key := by
  rcases h with rfl | ⟨s, rfl⟩ <;> cases k <;> simp [Json.same]

theorem compareValues_isLT_iff {a b : Json R} (ha : IsTermKey a) (hb : IsTermKey b) :
    (compareValues a b).isLT = true ↔ keyRank a < keyRank b := by
  rcases ha with rfl | ⟨s, rfl⟩ <;> rcases hb with rfl | ⟨t, rfl⟩
  · exact iff_of_false Bool.false_ne_true (lt_irrefl _)
  · exact iff_of_true rfl (WithBot.bot_lt_coe t)
  · exact iff_of_false Bool.false_ne_true not_lt_bot
  · simp only [compareValues, Json.number?, keyRank, WithBot.coe_lt_coe, Ordering.isLT_iff_eq_lt]
    exact compare_lt_iff_lt

theorem compareValues_isGT_iff {a b : Json R} (ha : IsTermKey a) (hb : IsTermKey b) :
    (compareValues a b).isGT = true ↔ keyRank b < keyRank a := by
  rcases ha with rfl | ⟨s, rfl⟩ <;> rcases hb with rfl | ⟨t, rfl⟩
  · exact iff_of_false Bool.false_ne_true (lt_irrefl _)
  · exact iff_of_false Bool.false_ne_true not_lt_bot
  · exact iff_of_true rfl (WithBot.bot_lt_coe s)
  · simp only [compareValues, Json.number?, keyRank, WithBot.coe_lt_coe, Ordering.isGT_iff_eq_gt]
    exact compare_gt_iff_gt

/-! ### The keys of a document -/

theorem mem_withoutRepeatsOf {v : Json R} (key : IsTermKey v) (w : Json R) (vs : List (Json R)) :
    (v = w ∨ v ∈ withoutRepeatsOf w vs) ↔ v = w ∨ v ∈ vs := by
  induction vs generalizing w with
  | nil => rfl
  | cons u vs ih =>
    rw [withoutRepeatsOf, List.mem_cons]
    split
    next repeated =>
      -- what is dropped equals what is kept, as far as it is a term key
      rw [ih]
      constructor
      · rintro (h | h)
        · exact .inl h
        · exact .inr (.inr h)
      · rintro (h | rfl | h)
        · exact .inl h
        · exact .inl ((same_iff_eq key w).mp repeated).symm
        · exact .inr h
    next => rw [List.mem_cons, ih u]

theorem mem_withoutRepeats {v : Json R} (key : IsTermKey v) (vs : List (Json R)) :
    v ∈ withoutRepeats vs ↔ v ∈ vs := by
  cases vs with
  | nil => rfl
  | cons w vs =>
    rw [withoutRepeats, List.mem_cons, List.mem_cons]
    exact mem_withoutRepeatsOf key w vs

omit [Scalar R] in
theorem null_not_mem_valuesAt (doc : Json R) (path : String) : Json.null ∉ valuesAt doc path := by
  simp [valuesAt, Json.isNull]

/-- A document is counted under null exactly when it has no value. -/
theorem null_mem_termKeys {field : String} {doc : Json R} :
    Json.null ∈ termKeys field doc ↔ valuesAt doc field = [] := by
  have none := (mem_withoutRepeats isTermKey_null _).not.mpr (null_not_mem_valuesAt doc field)
  unfold termKeys
  cases h : valuesAt doc field with
  | nil => simp [withoutRepeats]
  | cons v vs =>
    rw [h] at none
    simpa [withoutRepeats] using none

/-- A document is counted under a text exactly when it holds the text. -/
theorem str_mem_termKeys {field : String} {doc : Json R} {s : String} :
    Json.str s ∈ termKeys field doc ↔ s ∈ textsAt doc field := by
  have texts : s ∈ textsAt doc field ↔ Json.str s ∈ valuesAt doc field := by
    unfold textsAt
    rw [List.mem_filterMap]
    constructor
    · rintro ⟨v, hv, h⟩
      cases v <;> cases h
      exact hv
    · exact fun h => ⟨_, h, rfl⟩
  refine Iff.trans ?_ ((mem_withoutRepeats (isTermKey_str s) _).trans texts.symm)
  unfold termKeys
  cases valuesAt doc field with
  | nil => simp [withoutRepeats]
  | cons v vs => rfl

theorem isTermKey_of_mem_termKeys {field : String} {doc : Json R} (h : holdsTexts doc field = true)
    {k : Json R} (hk : k ∈ termKeys field doc) : IsTermKey k := by
  have values : ∀ v ∈ valuesAt doc field, IsTermKey v := by
    rw [Document.valuesAt_eq_map_textsAt h]
    intro v hv
    obtain ⟨s, -, rfl⟩ := List.mem_map.mp hv
    exact isTermKey_str s
  have kept (w : Json R) (vs : List (Json R)) : ∀ v ∈ withoutRepeatsOf w vs, v ∈ vs := by
    induction vs generalizing w with
    | nil => exact fun v hv => hv
    | cons u vs ih =>
      intro v hv
      rw [withoutRepeatsOf] at hv
      split at hv
      · exact List.mem_cons_of_mem _ (ih w v hv)
      · exact List.mem_cons.mpr ((List.mem_cons.mp hv).imp_right (ih u v))
  unfold termKeys at hk
  cases hvs : valuesAt doc field with
  | nil =>
    rw [hvs] at hk
    exact .inl (List.mem_singleton.mp hk)
  | cons v vs =>
    rw [hvs] at hk values
    refine values k (List.mem_cons.mpr ?_)
    exact (List.mem_cons.mp hk).imp_right (kept v vs k)

/-! ### Counting -/

/-- A key is listed once it is counted, behind those that were listed before. -/
theorem map_fst_countKey (counts : List (Json R × Nat)) (key : Json R) :
    (countKey counts key).map Prod.fst =
      counts.map Prod.fst ++ if counts.any (·.1.same key) then [] else [key] := by
  induction counts with
  | nil => rfl
  | cons first counts ih =>
    obtain ⟨k, n⟩ := first
    rw [countKey, List.any_cons]
    by_cases counted : k.same key = true
    · simp [counted]
    · simp only [counted, Bool.false_eq_true, if_false, List.map_cons, ih, Bool.false_or,
        List.cons_append]

theorem mem_countKey {k : Json R} (term : IsTermKey k) (counts : List (Json R × Nat))
    (key : Json R) :
    k ∈ (countKey counts key).map Prod.fst ↔ k ∈ counts.map Prod.fst ∨ k = key := by
  rw [map_fst_countKey, List.mem_append]
  split
  next counted =>
    -- nothing is added, as the key is listed already
    obtain ⟨count, listed, equal⟩ := List.any_eq_true.mp counted
    refine ⟨fun h => .inl (h.resolve_right List.not_mem_nil), ?_⟩
    rintro (h | rfl)
    · exact .inl h
    · exact .inl (List.mem_map.mpr ⟨count, listed, (same_iff_eq term _).mp equal⟩)
  next => rw [List.mem_singleton]

theorem nodup_countKey {counts : List (Json R × Nat)} {key : Json R} (term : IsTermKey key)
    (distinct : (counts.map Prod.fst).Nodup) : ((countKey counts key).map Prod.fst).Nodup := by
  rw [map_fst_countKey]
  split
  next => rwa [List.append_nil]
  next fresh =>
    refine List.nodup_append.mpr ⟨distinct, List.pairwise_singleton _ _, fun k listed k' new eq => ?_⟩
    obtain ⟨count, counted, rfl⟩ := List.mem_map.mp listed
    refine fresh (List.any_eq_true.mpr ⟨count, counted, ?_⟩)
    exact (same_iff_eq term _).mpr (eq.trans (List.mem_singleton.mp new))

theorem sum_countKey (counts : List (Json R × Nat)) (key : Json R) :
    ((countKey counts key).map Prod.snd).sum = (counts.map Prod.snd).sum + 1 := by
  induction counts with
  | nil => rfl
  | cons first counts ih =>
    obtain ⟨k, n⟩ := first
    rw [countKey]
    split
    · simp only [List.map_cons, List.sum_cons]
      omega
    · simp only [List.map_cons, List.sum_cons, ih]
      omega

/-! ### Counting the keys of documents -/

theorem mem_foldl_countKey {k : Json R} (term : IsTermKey k) (keys : List (Json R))
    (counts : List (Json R × Nat)) :
    k ∈ (keys.foldl countKey counts).map Prod.fst ↔ k ∈ counts.map Prod.fst ∨ k ∈ keys := by
  induction keys generalizing counts with
  | nil => simp
  | cons key keys ih => rw [List.foldl_cons, ih, mem_countKey term, List.mem_cons, or_assoc]

/-- Term keys are listed once each, and nothing but term keys is listed. -/
theorem terms_nodup_foldl_countKey {keys : List (Json R)} (terms : ∀ k ∈ keys, IsTermKey k)
    {counts : List (Json R × Nat)} (listed : ∀ k ∈ counts.map Prod.fst, IsTermKey k)
    (distinct : (counts.map Prod.fst).Nodup) :
    (∀ k ∈ (keys.foldl countKey counts).map Prod.fst, IsTermKey k) ∧
      ((keys.foldl countKey counts).map Prod.fst).Nodup := by
  induction keys generalizing counts with
  | nil => exact ⟨listed, distinct⟩
  | cons key keys ih =>
    have term := terms key List.mem_cons_self
    refine ih (fun k hk => terms k (List.mem_cons_of_mem _ hk)) (fun k hk => ?_) (nodup_countKey term distinct)
    rw [map_fst_countKey, List.mem_append] at hk
    rcases hk with hk | hk
    · exact listed k hk
    · split at hk
      · cases hk
      · exact List.mem_singleton.mp hk ▸ term

theorem sum_foldl_countKey (keys : List (Json R)) (counts : List (Json R × Nat)) :
    ((keys.foldl countKey counts).map Prod.snd).sum = (counts.map Prod.snd).sum + keys.length := by
  induction keys generalizing counts with
  | nil => rfl
  | cons key keys ih =>
    rw [List.foldl_cons, ih, sum_countKey, List.length_cons]
    omega

theorem length_foldl_countKey_le (keys : List (Json R)) (counts : List (Json R × Nat)) :
    (keys.foldl countKey counts).length ≤ counts.length + keys.length := by
  induction keys generalizing counts with
  | nil => exact Nat.le_refl _
  | cons key keys ih =>
    have counted := congrArg List.length (map_fst_countKey counts key)
    have further := ih (countKey counts key)
    rw [List.length_map, List.length_append, List.length_map] at counted
    rw [List.foldl_cons, List.length_cons]
    split at counted <;> simp at counted <;> omega

/-- A term key is counted exactly when it is a key of some document. -/
theorem mem_termCounts {k : Json R} (term : IsTermKey k) (docs : List (Json R)) (field : String) :
    k ∈ (termCounts docs field).map Prod.fst ↔ ∃ doc ∈ docs, k ∈ termKeys field doc := by
  rw [termCounts, ((Sorting.stable_perm _).map _).mem_iff, mem_foldl_countKey term,
    List.mem_flatMap]
  simp

/-- There are no more keys than the documents hold values. -/
theorem length_termCounts_le (docs : List (Json R)) (field : String) :
    (termCounts docs field).length ≤ sizeItems docs := by
  rw [termCounts, (Sorting.stable_perm _).length_eq]
  have listed := length_foldl_countKey_le (docs.flatMap (termKeys field)) []
  have held := length_flatMap_termKeys_le field docs
  rw [List.length_nil] at listed
  omega

/-- No count is greater than the number of values the documents hold. -/
theorem count_le_of_mem_termCounts {docs : List (Json R)} {field : String} {count : Json R × Nat}
    (h : count ∈ termCounts docs field) : count.2 ≤ sizeItems docs := by
  rw [termCounts, Sorting.mem_stable] at h
  have most :=
    List.single_le_sum (fun _ _ => Nat.zero_le _) _ (List.mem_map_of_mem h (f := Prod.snd))
  rw [sum_foldl_countKey] at most
  have held := length_flatMap_termKeys_le field docs
  simp only [List.map_nil, List.sum_nil] at most
  omega

/-- A key is counted for some document at least. -/
theorem pos_of_mem_termCounts {docs : List (Json R)} {field : String} {count : Json R × Nat}
    (h : count ∈ termCounts docs field) : 0 < count.2 := by
  have step (counts : List (Json R × Nat)) (key : Json R) (positive : ∀ count ∈ counts, 0 < count.2) :
      ∀ count ∈ countKey counts key, 0 < count.2 := by
    induction counts with
    | nil => simp [countKey]
    | cons first counts ih =>
      obtain ⟨k, n⟩ := first
      obtain ⟨-, later⟩ := List.forall_mem_cons.mp positive
      rw [countKey]
      split
      · exact List.forall_mem_cons.mpr ⟨Nat.succ_pos n, later⟩
      · exact List.forall_mem_cons.mpr ⟨positive _ List.mem_cons_self, ih later⟩
  have fold (keys : List (Json R)) (counts : List (Json R × Nat))
      (positive : ∀ count ∈ counts, 0 < count.2) : ∀ count ∈ keys.foldl countKey counts, 0 < count.2 := by
    induction keys generalizing counts with
    | nil => exact positive
    | cons key keys ih => exact ih _ (step counts key positive)
  rw [termCounts, Sorting.mem_stable] at h
  exact fold _ [] (by simp) count h

/-! ### The order of the keys -/

/-- Nothing comes before null. -/
theorem not_isLT_compareValues_null (a : Json R) : (compareValues a .null).isLT = false := by
  cases a <;> rfl

/-- Null comes before everything else. -/
theorem isLT_compareValues_null {a : Json R} (h : a.isNull = false) :
    (compareValues .null a).isLT = true := by
  cases a with
  | null => cases h
  | _ => rfl

/-- Where some document has no value of the field, the listing starts with the key null. -/
theorem termCounts_null_first {docs : List (Json R)} {field : String} {doc : Json R}
    (stored : doc ∈ docs)
    (lacking : valuesAt doc field = []) : ∃ n rest, termCounts docs field = (.null, n) :: rest := by
  have listed :=
    (mem_termCounts isTermKey_null docs field).mpr ⟨doc, stored, null_mem_termKeys.mpr lacking⟩
  have respects (counts : List (Json R × Nat)) : Sorting.Respects
      (fun a b => (compareValues a.1 b.1).isLT) (fun count => !count.1.isNull) counts := by
    constructor
    · rintro ⟨a, m⟩ - ⟨b, n⟩ - before
      cases b with
      | null => exact absurd before (by rw [not_isLT_compareValues_null]; exact Bool.false_ne_true)
      | _ => exact Bool.le_true _
    · rintro ⟨a, m⟩ - ⟨b, n⟩ - lt
      cases a with
      | null => exact isLT_compareValues_null (by simpa using (Bool.lt_iff.mp lt).2)
      | _ => exact absurd (Bool.lt_iff.mp lt).1 (by simp [Json.isNull])
  have sorted :=
    Sorting.stable_pairwise (respects ((docs.flatMap (termKeys field)).foldl countKey []))
  rw [← termCounts] at sorted
  cases counts : termCounts docs field with
  | nil =>
    rw [counts] at listed
    cases listed
  | cons first rest =>
    obtain ⟨k, n⟩ := first
    rw [counts] at listed sorted
    rcases List.mem_cons.mp listed with rfl | later
    · exact ⟨n, rest, rfl⟩
    · obtain ⟨count, hcount, null⟩ := List.mem_map.mp later
      have le := (List.pairwise_cons.mp sorted).1 count hcount
      rw [null] at le
      cases k with
      | null => exact ⟨n, rest, rfl⟩
      | _ => exact absurd le (by simp [Json.isNull])

/-- Where the field holds texts, the keys are term keys in strictly ascending order. -/
theorem termCounts_pairwise {docs : List (Json R)} {field : String}
    (texts : ∀ doc ∈ docs, holdsTexts doc field = true) :
    (∀ count ∈ termCounts docs field, IsTermKey count.1) ∧
      (termCounts docs field).Pairwise fun a b => keyRank a.1 < keyRank b.1 := by
  have keys : ∀ k ∈ docs.flatMap (termKeys field), IsTermKey k := by
    intro k hk
    obtain ⟨doc, hdoc, hk⟩ := List.mem_flatMap.mp hk
    exact isTermKey_of_mem_termKeys (texts doc hdoc) hk
  obtain ⟨terms, distinct⟩ := @terms_nodup_foldl_countKey R _ _ keys [] (by simp) .nil
  have term : ∀ count ∈ (docs.flatMap (termKeys field)).foldl countKey [], IsTermKey count.1 :=
    fun count hcount => terms _ (List.mem_map_of_mem hcount)
  have respects :
      Sorting.Respects (fun a b => (compareValues a.1 b.1).isLT) (fun count => keyRank count.1)
      ((docs.flatMap (termKeys field)).foldl countKey []) :=
    ⟨fun a ha b hb before => ((compareValues_isLT_iff (term a ha) (term b hb)).mp before).le,
      fun a ha b hb lt => (compareValues_isLT_iff (term a ha) (term b hb)).mpr lt⟩
  have sorted := Sorting.stable_pairwise respects
  rw [← termCounts] at sorted
  have distinct : ((termCounts docs field).map Prod.fst).Nodup :=
    ((Sorting.stable_perm _).map Prod.fst).nodup_iff.mpr distinct
  have listed : ∀ count ∈ termCounts docs field, IsTermKey count.1 :=
    fun count hcount => term count (Sorting.mem_stable.mp hcount)
  refine ⟨listed, (List.pairwise_map.mp distinct |>.and sorted).imp_of_mem ?_⟩
  rintro a b ha hb ⟨ne, le⟩
  exact lt_of_le_of_ne le fun eq => ne (keyRank_injective (listed a ha) (listed b hb) eq)

end Store

end TieredSearch
