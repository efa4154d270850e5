import Mathlib.Algebra.Order.Group.Int
import TieredSearch.Proofs.Aggregation.Listing

/-!
# The buckets of a listing

Whatever a field holds, a listing from a store is made of buckets that count documents, in descending
order, and of the bucket of the missing key behind them (`TermsRequest.isListing_of_run_onStore`).
The same key may head several buckets, as when a number and its text are both stored.
-/

namespace TieredSearch

open Store (termBucket termPage)

variable {R : Type} [Scalar R]

/-! ### Tallies -/

namespace TermTally

/-- Every bucket counts documents, and none of them those without a value. -/
def CountsDocuments (missingKey : Option String) (tally : TermTally) : Prop :=
  ∀ b ∈ tally.buckets, 0 < b.count ∧ missingKey ≠ some b.key

/-- One more bucket of a store leaves it so. -/
theorem countsDocuments_count {missingKey : Option String} {tally counted : TermTally}
    (before : tally.CountsDocuments missingKey) {count : Json R × Nat} (positive : 0 < count.2)
    (h : tally.count missingKey (termBucket count) = .ok counted) :
    counted.CountsDocuments missingKey := by
  have documents : (termBucket count).get? "doc_count" = some (.int count.2) := rfl
  rw [TermTally.count, documents, Option.bind_some] at h
  split at h
  · cases h
  next n read =>
    have number : n = count.2 := Json.eq_of_int?_int read
    split at h
    · cases h
      exact before
    · cases h
      exact before
    next key _ =>
      split at h
      · cases h
        exact before
      next listed =>
        cases h
        intro b hb
        rcases List.mem_append.mp hb with hb | hb
        · exact before b hb
        · rw [List.mem_singleton.mp hb]
          exact ⟨by simpa [number] using positive, listed⟩

theorem countsDocuments_countPage {missingKey : Option String} {counts : List (Json R × Nat)}
    (positive : ∀ count ∈ counts, 0 < count.2) {tally counted : TermTally}
    (before : tally.CountsDocuments missingKey)
    (h : tally.countPage missingKey (counts.map termBucket) = .ok counted) :
    counted.CountsDocuments missingKey := by
  induction counts generalizing tally with
  | nil =>
    cases h
    exact before
  | cons count counts ih =>
    obtain ⟨here, later⟩ := List.forall_mem_cons.mp positive
    obtain ⟨first, counting, h⟩ := bind_eq_ok_iff.mp h
    exact ih later (countsDocuments_count before here counting) h

end TermTally

/-! ### Listings -/

/-- Buckets as a listing gives them: those that count documents come in descending order, and behind
them at most the missing key. -/
def IsListing (missingKey : Option String) (buckets : List TermBucket) : Prop :=
  ∃ counted missing, buckets = counted ++ missing ∧
    (counted.Pairwise fun a b => b.count ≤ a.count) ∧
    (∀ b ∈ counted, 0 < b.count ∧ missingKey ≠ some b.key) ∧
    ∀ b ∈ missing, missingKey = some b.key

/-- What is sorted is a listing. -/
theorem TermTally.isListing_sorted {missingKey : Option String} {tally : TermTally}
    (counts : tally.CountsDocuments missingKey) : IsListing missingKey (tally.sorted missingKey) := by
  have respects : Sorting.Respects (fun a b : TermBucket => decide (b.count < a.count)) (fun b => -b.count)
      tally.buckets := by
    constructor
    · intro a _ b _ before
      have := of_decide_eq_true before
      omega
    · intro a _ b _ lt
      exact decide_eq_true (by omega)
  have descending : (Sorting.stable (fun a b : TermBucket => decide (b.count < a.count))
      tally.buckets).Pairwise fun a b => b.count ≤ a.count :=
    (Sorting.stable_pairwise respects).imp fun le => by omega
  have counted : ∀ b ∈ Sorting.stable (fun a b : TermBucket => decide (b.count < a.count)) tally.buckets,
      0 < b.count ∧ missingKey ≠ some b.key := fun b hb => counts b (Sorting.mem_stable.mp hb)
  unfold TermTally.sorted
  split
  next n key _ => exact ⟨_, [⟨key, n⟩], rfl, descending, counted, by simp⟩
  next => exact ⟨_, [], (List.append_nil _).symm, descending, counted, by simp⟩

namespace TermsRequest

variable {ctx : Context} {index : String} {req : TermsRequest R} {st : Store R}

/-- Every page counts documents. -/
theorem Plan.countsDocuments_pages {plan : Plan R} {patience : Nat} {after : Option (Json R)}
    {tally counted : TermTally} (before : tally.CountsDocuments plan.missingKey)
    (h : (plan.pages patience after tally).onStore st = .value counted) :
    counted.CountsDocuments plan.missingKey := by
  induction patience generalizing after tally with
  | zero => cases h
  | succ patience ih =>
    rw [pages_succ_onStore rfl, Outcome.bind_eq_value_iff] at h
    obtain ⟨first, page, h⟩ := h
    rw [Outcome.ofExcept_eq_value_iff] at page
    have positive : ∀ count ∈ termPage (plan.counts st) plan.pageSize after, 0 < count.2 := by
      intro count hcount
      refine Store.pos_of_mem_termCounts (?_ : count ∈ plan.counts st)
      unfold termPage at hcount
      split at hcount
      · exact List.mem_of_mem_filter (List.mem_of_mem_take hcount)
      · exact List.mem_of_mem_take hcount
    have first := TermTally.countsDocuments_countPage positive before page
    split at h
    · exact ih first h
    · cases h
      exact first

/-- Listed from a store are buckets that count documents, in descending order, and the missing key
behind them. -/
theorem isListing_of_run_onStore {buckets : List TermBucket}
    (h : (req.run ctx index).onStore st = .value buckets) : IsListing req.missingKey buckets := by
  rw [run, enumerate, Dialogue.onStore_bounded, Outcome.bounded_eq_value_iff, Dialogue.onStore_bind,
    Outcome.bind_eq_value_iff] at h
  obtain ⟨plan, planned, h⟩ := h
  rw [Dialogue.onStore_ofExcept, Outcome.ofExcept_eq_value_iff] at planned
  obtain ⟨s, f, query, -, -, -, rfl⟩ := plan_eq_ok_iff.mp planned
  rw [Dialogue.onStore_bind, Outcome.bind_eq_value_iff] at h
  obtain ⟨tally, read, same⟩ := h
  cases same
  exact TermTally.isListing_sorted (Plan.countsDocuments_pages (by simp [TermTally.CountsDocuments]) read)

end TermsRequest

end TieredSearch
