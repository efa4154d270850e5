import TieredSearch.Proofs.Aggregation.Listing
import TieredSearch.Proofs.Number.Laws

/-!
# Pages of any values

A listing hands the store the last key of a page and reads on behind it. The keys need not be texts:
documents may hold numbers, truth values, lists and objects, and where a missing key is asked for,
keys without a text are counted under it.

* `Store.Behind`: the order of keys, which is transitive and has no key behind itself. It is an order
  only where the numbers are one, `Scalar.StrictOrder`.
* `Store.length_behind_lt`: every page leaves fewer keys behind its cursor.
* `TermsRequest.exists_run_onStore_of_small`: a listing of a store that fits the patience comes to an
  end, whatever the documents hold, and lists nothing only of no documents.

No assumption is made on keys that occur twice or on the order of the counts: what a page has passed
is said by the cursor alone.
-/

namespace TieredSearch

variable {R : Type} [Scalar R]

namespace Store

/-- The first value comes strictly behind the second one: its type does, or both are numbers, texts or
truth values and it is the greater one. -/
inductive Behind : Json R → Json R → Prop where
  /-- By type. -/
  | rank {a b : Json R} (later : rank b < rank a) : Behind a b
  /-- By number. -/
  | number {a b : Json R} {x y : R} (first : a.number? = some x) (second : b.number? = some y)
      (greater : Scalar.lt y x = true) : Behind a b
  /-- By text. -/
  | str {s t : String} (greater : t < s) : Behind (.str s) (.str t)
  /-- By truth value. -/
  | bool : Behind (.bool true) (.bool false)

theorem rank_of_number? {v : Json R} {x : R} (h : v.number? = some x) : rank v = 1 := by
  cases v <;> first | rfl | cases h

theorem Behind.of_isGT {a b : Json R} (h : (compareValues a b).isGT = true) : Behind a b := by
  unfold compareValues at h
  split at h
  next x y first second =>
    refine .number first second ?_
    split at h
    · cases h
    · split at h
      next greater => exact greater
      · cases h
  next =>
    split at h
    next s t => exact .str (compare_gt_iff_gt.mp (Ordering.isGT_iff_eq_gt.mp h))
    next p q _ =>
      cases p <;> cases q <;> first | exact .bool | cases h
    next => exact .rank (compare_gt_iff_gt.mp (Ordering.isGT_iff_eq_gt.mp h))

variable [Scalar.StrictOrder R]

theorem Behind.isGT {a b : Json R} (h : Behind a b) : (compareValues a b).isGT = true := by
  cases h with
  | rank later =>
    unfold compareValues
    split
    next x y first second =>
      rw [rank_of_number? first, rank_of_number? second] at later
      exact absurd later (Nat.lt_irrefl 1)
    next =>
      split
      next s t => exact absurd later (Nat.lt_irrefl 3)
      next p q => exact absurd later (Nat.lt_irrefl 2)
      next => exact Ordering.isGT_iff_eq_gt.mpr (compare_gt_iff_gt.mpr later)
  | number first second greater =>
    rename_i x y
    have not_less : Scalar.lt x y = false := by
      refine Bool.eq_false_iff.mpr fun less => ?_
      have same := Scalar.StrictOrder.lt_trans less greater
      rw [Scalar.StrictOrder.lt_self] at same
      cases same
    simp only [compareValues, first, second, not_less, greater]
    rfl
  | str greater => exact Ordering.isGT_iff_eq_gt.mpr (compare_gt_iff_gt.mpr greater)
  | bool => rfl

theorem Behind.trans {a b c : Json R} (h : Behind a b) (h' : Behind b c) : Behind a c := by
  cases h with
  | rank later =>
    refine .rank ?_
    cases h' with
    | rank later' => exact later'.trans later
    | number first second _ => rwa [rank_of_number? second, ← rank_of_number? first]
    | str _ => exact later
    | bool => exact later
  | number first second greater =>
    cases h' with
    | rank later => exact .rank (by rwa [rank_of_number? first, ← rank_of_number? second])
    | number first' second' greater' =>
      cases second.symm.trans first'
      exact .number first second' (Scalar.StrictOrder.lt_trans greater' greater)
    | str _ => cases second
    | bool => cases second
  | str greater =>
    cases h' with
    | rank later => exact .rank later
    | number first _ _ => cases first
    | str greater' => exact .str (greater'.trans greater)
  | bool =>
    cases h' with
    | rank later => exact .rank later
    | number first _ _ => cases first

theorem not_behind_self (v : Json R) : ¬Behind v v := by
  intro h
  cases h with
  | rank later => exact Nat.lt_irrefl _ later
  | number first second greater =>
    cases first.symm.trans second
    rw [Scalar.StrictOrder.lt_self] at greater
    cases greater
  | str greater => exact lt_irrefl _ greater

/-! ### Behind a cursor -/

/-- The counts that lie behind a cursor; without one, all. -/
def behind (counts : List (Json R × Nat)) : Option (Json R) → List (Json R × Nat)
  | some cursor => counts.filter fun count =>
      (compareValues count.1 ((cursor.get? termSourceName).getD .null)).isGT
  | none => counts

omit [Scalar.StrictOrder R] in
theorem termPage_eq (counts : List (Json R × Nat)) (size : Nat) (after : Option (Json R)) :
    termPage counts size after = (behind counts after).take size := by
  cases after <;> rfl

/-- Behind a key that lies behind a cursor there is less than behind the cursor. -/
theorem length_behind_lt {counts : List (Json R × Nat)} {after : Option (Json R)}
    {count : Json R × Nat} (h : count ∈ behind counts after) :
    (behind counts (some (.obj [(termSourceName, count.1)]))).length < (behind counts after).length := by
  have later : behind counts (some (.obj [(termSourceName, count.1)])) =
      (behind counts after).filter fun other => (compareValues other.1 count.1).isGT := by
    cases after with
    | none => rfl
    | some cursor =>
      rw [behind, behind, List.filter_filter]
      refine List.filter_congr fun other _ => ?_
      have reached := Behind.of_isGT (List.mem_filter.mp h).2
      have named : ((Json.obj [(termSourceName, count.1)]).get? termSourceName).getD .null = count.1 := rfl
      rw [named, Bool.eq_iff_iff, Bool.and_eq_true, iff_self_and]
      exact fun beyond => ((Behind.of_isGT beyond).trans reached).isGT
  rw [later]
  refine List.length_filter_lt_length_iff_exists.mpr ⟨count, h, fun beyond => ?_⟩
  exact not_behind_self count.1 (Behind.of_isGT beyond)

omit [Scalar.StrictOrder R] in
/-- Every document is counted under some key. -/
theorem termCounts_eq_nil_iff {docs : List (Json R)} {field : String} :
    termCounts docs field = [] ↔ docs = [] := by
  constructor
  · intro uncounted
    have keys : (docs.flatMap (termKeys field)).length = 0 := by
      have sum := sum_foldl_countKey (docs.flatMap (termKeys field)) []
      have none : (docs.flatMap (termKeys field)).foldl countKey [] = [] := by
        have sorted : (termCounts docs field).length =
            ((docs.flatMap (termKeys field)).foldl countKey []).length :=
          (Sorting.stable_perm _).length_eq
        rw [uncounted] at sorted
        exact List.length_eq_zero_iff.mp sorted.symm
      rw [none] at sum
      simpa using sum.symm
    refine List.eq_nil_iff_forall_not_mem.mpr fun doc stored => ?_
    have keyless : termKeys field doc = [] :=
      List.flatMap_eq_nil_iff.mp (List.length_eq_zero_iff.mp keys) doc stored
    unfold termKeys at keyless
    split at keyless
    · cases keyless
    next some => exact some keyless
  · rintro rfl
    rfl

end Store

/-! ### What is counted -/

namespace TermTally

open Store (termBucket)

/-- Nothing has been counted. -/
def IsBare (tally : TermTally) : Prop := tally.buckets = [] ∧ tally.missing = none

theorem sorted_eq_nil_iff {missingKey : String} {tally : TermTally} :
    tally.sorted (some missingKey) = [] ↔ tally.IsBare := by
  obtain ⟨buckets, missing⟩ := tally
  cases missing with
  | none =>
    show Sorting.stable _ buckets = [] ↔ buckets = [] ∧ none = none
    rw [and_iff_left rfl, ← List.length_eq_zero_iff, (Sorting.stable_perm _).length_eq,
      List.length_eq_zero_iff]
  | some n => simp [sorted, IsBare]

/-- Counting a key leaves something counted, whatever the key. -/
theorem exists_count_of_signed {n : Nat} (signed : Number.isSigned n = true) (key : Json R)
    (missingKey : String) (tally : TermTally) :
    ∃ counted, tally.count (some missingKey) (termBucket (key, n)) = .ok counted ∧ ¬counted.IsBare := by
  rw [count, docCount_termBucket key signed]
  dsimp only
  split
  · exact ⟨_, rfl, fun bare => by cases bare.2⟩
  next none => cases none
  · split
    · exact ⟨_, rfl, fun bare => by cases bare.2⟩
    · exact ⟨_, rfl, fun bare => absurd bare.1 (by simp)⟩

/-- A page that is counted leaves something counted, unless it is empty and nothing was before. -/
theorem exists_countPage_of_signed {counts : List (Json R × Nat)}
    (signed : ∀ count ∈ counts, Number.isSigned count.2 = true) (missingKey : String) (tally : TermTally) :
    ∃ counted, tally.countPage (some missingKey) (counts.map termBucket) = .ok counted ∧
      (counted.IsBare ↔ tally.IsBare ∧ counts = []) := by
  induction counts generalizing tally with
  | nil => exact ⟨tally, rfl, (and_iff_left rfl).symm⟩
  | cons count counts ih =>
    obtain ⟨first, hfirst, some⟩ := exists_count_of_signed (signed count List.mem_cons_self) count.1
      missingKey tally
    obtain ⟨counted, hcounted, bare⟩ := ih (fun c hc => signed c (List.mem_cons_of_mem _ hc)) first
    refine ⟨counted, ?_, ?_⟩
    · rw [List.map_cons, countPage, hfirst]
      exact hcounted
    · rw [bare]
      exact iff_of_false (fun h => some h.1) fun h => List.cons_ne_nil _ _ h.2

end TermTally

/-! ### All pages -/

namespace TermsRequest

open Store (behind termPage)

variable [Scalar.StrictOrder R] {ctx : Context} {index : String} {req : TermsRequest R} {st : Store R}

/-- From a cursor on, pages come to an end when there is more patience than keys behind the cursor. -/
theorem Plan.exists_pages_onStore {plan : Plan R} {missingKey : String}
    (missing : plan.missingKey = some missingKey)
    (signed : ∀ count ∈ plan.counts st, Number.isSigned count.2 = true) {patience : Nat}
    {cursor : Option (Json R)} (enough : (behind (plan.counts st) cursor).length < patience)
    (tally : TermTally) :
    ∃ counted, (plan.pages patience cursor tally).onStore st = .value counted ∧
      (counted.IsBare ↔ tally.IsBare ∧ termPage (plan.counts st) plan.pageSize cursor = []) := by
  induction patience generalizing cursor tally with
  | zero => exact absurd enough (Nat.not_lt_zero _)
  | succ patience ih =>
    generalize hpage : termPage (plan.counts st) plan.pageSize cursor = page
    have taken : page = (behind (plan.counts st) cursor).take plan.pageSize := by
      rw [← hpage, Store.termPage_eq]
    have within : ∀ count ∈ page, count ∈ behind (plan.counts st) cursor := by
      rw [taken]
      exact fun count h => List.mem_of_mem_take h
    have stored : ∀ count ∈ page, Number.isSigned count.2 = true := by
      refine fun count h => signed count ?_
      have reached := within count h
      cases cursor with
      | none => exact reached
      | some _ => exact List.mem_of_mem_filter reached
    obtain ⟨first, counting, bare⟩ := TermTally.exists_countPage_of_signed stored missingKey tally
    rw [pages_succ_onStore hpage, missing, counting, Outcome.ofExcept_ok, Outcome.value_bind]
    cases hlast : page.getLast? with
    | none =>
      rw [Store.cursorBehind, hlast, Option.map_none, ite_self]
      exact ⟨first, rfl, bare⟩
    | some last =>
      rw [Store.cursorBehind, hlast, Option.map_some]
      by_cases ends : page.length < plan.pageSize
      · rw [if_pos ends]
        exact ⟨first, rfl, bare⟩
      · rw [if_neg ends]
        have mem := List.mem_of_getLast? hlast
        have fewer := Store.length_behind_lt (within last mem)
        have left : (behind (plan.counts st) (some (.obj [(termSourceName, last.1)]))).length < patience := by
          omega
        obtain ⟨counted, run, still⟩ := ih left first
        refine ⟨counted, run, ?_⟩
        have counts : page ≠ [] := List.ne_nil_of_mem mem
        rw [still, bare]
        exact iff_of_false (fun h => counts h.1.2) fun h => counts h.2

/-- Whatever values a field holds, they can be listed, and nothing is listed only of no documents. -/
theorem exists_run_onStore_of_small {plan : Plan R} {missingKey : String}
    (planned : req.plan ctx index = .ok plan) (missing : req.missingKey = some missingKey)
    (full : 0 < ctx.config.aggregation.pageSize) (enough : st.size < ctx.patience)
    (small : st.size < Number.signedBound) :
    ∃ buckets, (req.run ctx index).onStore st = .value buckets ∧
      (buckets = [] ↔ st.selected index plan.query = []) := by
  obtain ⟨s, f, query, -, -, -, hplan⟩ := plan_eq_ok_iff.mp planned
  have counts := counts_of_plan planned st
  have held := st.sizeItems_selected_le index plan.query
  have keys := Store.length_termCounts_le (st.selected index plan.query) req.field
  have patient : (behind (plan.counts st) none).length < ctx.patience := by
    rw [behind, counts]
    omega
  have known : plan.missingKey = some missingKey := by rw [hplan, missing]
  obtain ⟨tally, pages, bare⟩ := Plan.exists_pages_onStore known (plan.isSigned_counts small) patient {}
  refine ⟨tally.sorted (some missingKey), ?_, ?_⟩
  · rw [run, enumerate, planned, missing]
    simp [pages]
  · obtain ⟨size, hsize⟩ := Nat.exists_eq_succ_of_ne_zero full.ne'
    have page : termPage (plan.counts st) plan.pageSize none = [] ↔ plan.counts st = [] := by
      rw [termPage, hplan, hsize, List.take_eq_nil_iff, or_iff_right (Nat.succ_ne_zero size)]
    rw [TermTally.sorted_eq_nil_iff, bare, page, counts, Store.termCounts_eq_nil_iff]
    exact and_iff_right ⟨rfl, rfl⟩

end TermsRequest

end TieredSearch
