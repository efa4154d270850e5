import Mathlib.Data.List.Nodup
import TieredSearch.Proofs.Aggregation.Nothing
import TieredSearch.Proofs.Aggregation.Paging

/-!
# The tally of a listing

What a listing answers where the field holds texts, count by count.

* `Store.countUnder_termCounts`: a key is counted once for each document it is a key of, where no document
  repeats a key.
* `TermTally.sum_ofMissing`: where there is a missing key, the documents without a value are those of null and
  those of that key.
* `TermsRequest.buckets_of_run_onStore`: whatever the patience, a listing that comes to an end has read every
  count of the store.
-/

namespace TieredSearch

open Document (valuesAt textsAt holdsTexts)

variable {R : Type}

/-! ### Counts of one key -/

namespace Store

variable [Scalar R]

/-- How many documents are counted under a key. -/
def countUnder (counts : List (Json R × Nat)) (key : Json R) : Nat :=
  ((counts.filter (·.1.same key)).map Prod.snd).sum

theorem countUnder_cons (count : Json R × Nat) (counts : List (Json R × Nat)) (key : Json R) :
    countUnder (count :: counts) key = (if count.1.same key then count.2 else 0) + countUnder counts key := by
  unfold countUnder
  rw [List.filter_cons]
  split
  · rw [List.map_cons, List.sum_cons]
  · rw [Nat.zero_add]

theorem countUnder_countKey {key : Json R} (term : IsTermKey key) (k : Json R)
    (counts : List (Json R × Nat)) :
    countUnder (countKey counts key) k = countUnder counts k + if key.same k then 1 else 0 := by
  induction counts with
  | nil => rw [countKey, countUnder_cons, Nat.add_comm]
  | cons count counts ih =>
    obtain ⟨listed, n⟩ := count
    rw [countKey, countUnder_cons]
    split
    next found =>
      cases (same_iff_eq term listed).mp found
      rw [countUnder_cons]
      by_cases same : key.same k = true
      · simp only [same, if_true]
        omega
      · simp only [same, Bool.false_eq_true, if_false]
        omega
    next =>
      rw [countUnder_cons, ih]
      omega

/-- Counting keys counts each of them as often as it occurs. -/
theorem countUnder_foldl_countKey {keys : List (Json R)} (terms : ∀ key ∈ keys, IsTermKey key) (k : Json R)
    (counts : List (Json R × Nat)) :
    countUnder (keys.foldl countKey counts) k = countUnder counts k + keys.countP (·.same k) := by
  induction keys generalizing counts with
  | nil => rfl
  | cons key keys ih =>
    obtain ⟨first, rest⟩ := List.forall_mem_cons.mp terms
    rw [List.foldl_cons, ih rest, countUnder_countKey first k, List.countP_cons]
    omega

/-- Where no key is repeated, a key is counted as it is listed. -/
theorem countUnder_of_mem {counts : List (Json R × Nat)} {k : Json R} {n : Nat} (term : IsTermKey k)
    (distinct : (counts.map Prod.fst).Nodup) (listed : (k, n) ∈ counts) : countUnder counts k = n := by
  induction counts with
  | nil => cases listed
  | cons count counts ih =>
    obtain ⟨fresh, distinct⟩ := List.nodup_cons.mp distinct
    rw [countUnder_cons]
    rcases List.mem_cons.mp listed with rfl | later
    · have none : counts.filter (·.1.same k) = [] := by
        refine List.filter_eq_nil_iff.mpr fun other hother same => fresh ?_
        have again := List.mem_map_of_mem (f := Prod.fst) hother
        rwa [(same_iff_eq term other.1).mp same] at again
      rw [if_pos ((same_iff_eq term k).mpr rfl), countUnder, none]
      rfl
    · rw [if_neg, Nat.zero_add, ih distinct later]
      intro same
      rw [(same_iff_eq term count.1).mp same] at fresh
      exact fresh (List.mem_map_of_mem later)

theorem nodup_termCounts {docs : List (Json R)} {field : String}
    (texts : ∀ doc ∈ docs, holdsTexts doc field = true) : ((termCounts docs field).map Prod.fst).Nodup := by
  rw [List.Nodup, List.pairwise_map]
  exact (termCounts_pairwise texts).2.imp fun lt same => absurd (congrArg keyRank same) lt.ne

/-- A key is counted once for each document it is a key of, where no document repeats a key. -/
theorem countUnder_termCounts {docs : List (Json R)} {field : String}
    (texts : ∀ doc ∈ docs, holdsTexts doc field = true) (distinct : ∀ doc ∈ docs, (termKeys field doc).Nodup)
    {k : Json R} (term : IsTermKey k) :
    countUnder (termCounts docs field) k = docs.countP fun doc => (termKeys field doc).any (·.same k) := by
  have keys : ∀ key ∈ docs.flatMap (termKeys field), IsTermKey key := by
    intro key hkey
    obtain ⟨doc, hdoc, hkey⟩ := List.mem_flatMap.mp hkey
    exact isTermKey_of_mem_termKeys (texts doc hdoc) hkey
  have sorted : countUnder (termCounts docs field) k =
      countUnder ((docs.flatMap (termKeys field)).foldl countKey []) k :=
    (((Sorting.stable_perm _).filter _).map _).sum_eq
  -- a document that repeats no key has a key once at most
  have once (l : List (Json R)) (nodup : l.Nodup) :
      l.countP (·.same k) = if l.any (·.same k) then 1 else 0 := by
    induction l with
    | nil => rfl
    | cons key l ih =>
      obtain ⟨fresh, nodup⟩ := List.nodup_cons.mp nodup
      rw [List.countP_cons, List.any_cons, ih nodup]
      by_cases same : key.same k = true
      · have none : l.any (·.same k) = false := by
          rw [List.any_eq_false]
          intro other hother again
          rw [(same_iff_eq term key).mp same, ← (same_iff_eq term other).mp again] at fresh
          exact fresh hother
        simp [same, none]
      · simp [same]
  rw [sorted, countUnder_foldl_countKey keys, show countUnder ([] : List (Json R × Nat)) k = 0 from rfl,
    Nat.zero_add]
  clear keys sorted texts
  induction docs with
  | nil => rfl
  | cons doc docs ih =>
    obtain ⟨first, rest⟩ := List.forall_mem_cons.mp distinct
    rw [List.flatMap_cons, List.countP_append, List.countP_cons, ih rest, once _ first, Nat.add_comm]

theorem withoutRepeatsOf_of_nodup {s : String} {texts : List String} (distinct : (s :: texts).Nodup) :
    withoutRepeatsOf (.str s : Json R) (texts.map .str) = texts.map .str := by
  induction texts generalizing s with
  | nil => rfl
  | cons t texts ih =>
    obtain ⟨fresh, distinct⟩ := List.nodup_cons.mp distinct
    have differ : ¬(Json.str s : Json R).same (.str t) = true := by
      rw [same_iff_eq (isTermKey_str t), Json.str.injEq]
      exact fun same => fresh (same ▸ List.mem_cons_self)
    rw [List.map_cons, withoutRepeatsOf, if_neg differ, ih distinct]

/-- A document of distinct texts repeats no key. -/
theorem nodup_termKeys {field : String} {doc : Json R} (texts : holdsTexts doc field = true)
    (distinct : (textsAt doc field).Nodup) : (termKeys field doc).Nodup := by
  rw [termKeys, Document.valuesAt_eq_map_textsAt texts]
  generalize textsAt doc field = texts at distinct
  cases texts with
  | nil => exact List.nodup_singleton _
  | cons s texts =>
    rw [List.map_cons, withoutRepeats, withoutRepeatsOf_of_nodup distinct, ← List.map_cons]
    exact distinct.map fun _ _ same => Json.str.inj same

theorem any_same_iff {key : Json R} (term : IsTermKey key) (keys : List (Json R)) :
    keys.any (·.same key) = true ↔ key ∈ keys := by
  simp [List.any_eq_true, same_iff_eq term]

end Store

/-! ### What is counted -/

namespace TermTally

open Store (IsTermKey countUnder)

variable [Scalar R]

/-- Null and the missing key come together in one count. -/
theorem sum_ofMissing {counts : List (Json R × Nat)} (terms : ∀ count ∈ counts, IsTermKey count.1)
    (missingKey : String) :
    ((counts.filter fun count => ofMissing (some missingKey) count.1).map Prod.snd).sum =
      countUnder counts .null + countUnder counts (.str missingKey) := by
  induction counts with
  | nil => rfl
  | cons count counts ih =>
    obtain ⟨k, n⟩ := count
    obtain ⟨term, others⟩ := List.forall_mem_cons.mp terms
    rw [List.filter_cons, Store.countUnder_cons, Store.countUnder_cons]
    rcases term with rfl | ⟨s, rfl⟩
    · have counted : ofMissing (some missingKey) (.null : Json R) = true := rfl
      simp only [counted, if_true, List.map_cons, List.sum_cons, ih others, Json.same, Bool.false_eq_true, if_false]
      omega
    · by_cases same : s = missingKey
      · subst same
        simp only [ofMissing_str, decide_true, if_true, List.map_cons, List.sum_cons, ih others, Json.same,
          Bool.false_eq_true, if_false, beq_self_eq_true]
        omega
      · have other : missingKey ≠ s := Ne.symm same
        simp only [ofMissing_str, Option.some.injEq, other, decide_false, ih others, Json.same, Bool.false_eq_true,
          if_false, beq_iff_eq, same, Nat.zero_add]

/-- A bucket of an answer counts the documents of its key; the bucket of the missing key those of null, too. -/
theorem count_of_mem_sorted {counts : List (Json R × Nat)} (terms : ∀ count ∈ counts, IsTermKey count.1)
    (distinct : (counts.map Prod.fst).Nodup) {missingKey : Option String} {b : TermBucket}
    (listed : b ∈ (({} : TermTally).add missingKey counts).sorted missingKey) :
    b.count = if missingKey = some b.key then
        Number.wrapSigned (countUnder counts .null + countUnder counts (.str b.key) : Nat)
      else countUnder counts (.str b.key) := by
  have text (h : b ∈ Sorting.stable (fun a b => b.count < a.count) (({} : TermTally).add missingKey counts).buckets) :
      b.count = if missingKey = some b.key then
          Number.wrapSigned (countUnder counts .null + countUnder counts (.str b.key) : Nat)
        else countUnder counts (.str b.key) := by
    rw [Sorting.mem_stable, add, List.nil_append, mem_filterMap_listed?_iff terms] at h
    obtain ⟨other, n, hcount, same⟩ := h
    rw [if_neg other, same, Store.countUnder_of_mem (Store.isTermKey_str b.key) distinct hcount]
  unfold sorted at listed
  dsimp only at listed
  split at listed
  next n key missing =>
    rcases List.mem_append.mp listed with h | h
    · exact text h
    · cases List.mem_singleton.mp h
      rw [if_pos rfl, ← sum_ofMissing terms key]
      simp only [add] at missing
      split at missing
      · cases missing
      · rw [← Option.some.inj missing]
        simp
  next => exact text listed

end TermTally

/-! ### All pages of a store -/

namespace TermsRequest

variable [Scalar R] {ctx : Context} {index : String} {req : TermsRequest R} {st : Store R}

/-- More patience makes no difference to a listing that has come to an end. -/
theorem Plan.pages_mono {plan : Plan R} {patience patience' : Nat} (le : patience ≤ patience')
    {after : Option (Json R)} {tally counted : TermTally}
    (h : (plan.pages patience after tally).onStore st = .value counted) :
    (plan.pages patience' after tally).onStore st = .value counted := by
  induction patience generalizing patience' after tally with
  | zero => cases h
  | succ patience ih =>
    obtain ⟨more, rfl⟩ := Nat.exists_eq_add_of_le' (Nat.lt_of_lt_of_le (Nat.succ_pos patience) le)
    rw [pages_succ_onStore rfl, Outcome.bind_eq_value_iff] at h ⊢
    obtain ⟨first, page, h⟩ := h
    refine ⟨first, page, ?_⟩
    split at h
    · exact ih (Nat.le_of_succ_le_succ le) h
    · exact h

/-- A page of no terms is the last one. -/
theorem Plan.pages_onStore_of_pageSize_zero {plan : Plan R} (empty : plan.pageSize = 0) {patience : Nat}
    {tally counted : TermTally} (h : (plan.pages patience none tally).onStore st = .value counted) :
    counted = tally := by
  cases patience with
  | zero => cases h
  | succ patience =>
    have page : Store.termPage (plan.counts st) plan.pageSize none = [] := by
      rw [empty]
      rfl
    rw [pages_succ_onStore page] at h
    rw [List.map_nil, TermTally.countPage, Outcome.ofExcept_ok, Outcome.value_bind,
      show Store.cursorBehind ([] : List (Json R × Nat)) = none from rfl, ite_self] at h
    cases h
    rfl

/-- A listing with pages of no terms is empty. -/
theorem buckets_eq_nil_of_run_onStore {plan : Plan R} (planned : req.plan ctx index = .ok plan)
    (empty : ctx.config.aggregation.pageSize = 0) {buckets : List TermBucket}
    (h : (req.run ctx index).onStore st = .value buckets) : buckets = [] := by
  obtain ⟨s, f, query, -, -, -, hplan⟩ := plan_eq_ok_iff.mp planned
  obtain ⟨tally, read, rfl⟩ := exists_tally_of_run_onStore planned h
  rw [Plan.pages_onStore_of_pageSize_zero (by rw [hplan]; exact empty) read]
  rfl

/-- A listing from a store whose field holds texts has read all counts of the store. -/
theorem buckets_of_run_onStore {plan : Plan R} (planned : req.plan ctx index = .ok plan)
    (texts : ∀ doc ∈ st.selected index plan.query, holdsTexts doc req.field = true)
    (full : 0 < ctx.config.aggregation.pageSize) (small : st.size < Number.signedBound)
    {buckets : List TermBucket} (h : (req.run ctx index).onStore st = .value buckets) :
    buckets = (({} : TermTally).add req.missingKey
      (Store.termCounts (st.selected index plan.query) req.field)).sorted req.missingKey := by
  obtain ⟨tally, read, rfl⟩ := exists_tally_of_run_onStore planned h
  have few := st.pages_le_size index plan.query req.field ctx.config.aggregation.pageSize
  have more := Plan.pages_mono (Nat.le_max_left ctx.patience (st.size + 1)) read
  rw [pages_onStore_eq_add planned texts full small
    (Nat.lt_of_lt_of_le (Nat.lt_succ_of_le few) (Nat.le_max_right _ _))] at more
  cases more
  rfl

end TermsRequest

end TieredSearch
