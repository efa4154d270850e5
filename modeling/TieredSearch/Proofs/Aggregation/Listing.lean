import TieredSearch.Aggregation.Terms
import TieredSearch.Proofs.Filter.Restriction
import TieredSearch.Proofs.Store.TermCounts
import Mathlib.Tactic.SplitIfs
import Mathlib.Tactic.Tauto

/-!
# Listing terms from a store

A listing is read page by page, each page behind the last key of the one before. Read from a store
whose field holds texts, the pages together are the counts of the store, in order and once each
(`pages_onStore`), provided the patience exceeds the number of full pages, as it does where it
exceeds the size of the store (`Store.pages_le_size`).

A page adds the buckets of its texts to the tally, in order; where there is a missing key, the counts
of null and of that key are added to the documents without a value, otherwise null is left out
(`TermTally.add`, `TermTally.countPage_eq_add`). So a listing answers with all counts of the store
(`TermsRequest.run_onStore_eq`): the keys it lists are the texts that some document holds, and the
missing key when some document has none (`TermsRequest.exists_run_onStore`).
-/

namespace TieredSearch

open Document (valuesAt textsAt holdsTexts)

variable {R : Type}

/-! ### Reading an answer -/

theorem Json.lookup_put_of_ne {k key : String} (h : k ≠ key) (value : Json R)
    (members : List (String × Json R)) : lookup k (put key value members) = lookup k members := by
  induction members with
  | nil => simp [put, lookup, h.symm]
  | cons member rest ih =>
    obtain ⟨k', v⟩ := member
    rw [put]
    split
    next same =>
      subst same
      rw [lookup, lookup, if_neg h.symm, if_neg h.symm]
    next => rw [lookup, lookup, ih]

/-- A whole number that is read is the one that was written. -/
theorem Json.eq_of_int?_int {n m : Int} (read : (Json.int n : Json R).int? = some m) : m = n := by
  rw [int?] at read
  split at read
  · exact (Option.some.inj read).symm
  · cases read

namespace Breakdown

/-- The number of documents beside a result does not hide it. -/
theorem descend_put {name : String} (named : name ≠ "doc_count") (count : Json R) (depth : Nat)
    (members : List (String × Json R)) :
    descend name depth (.obj (Json.put "doc_count" count members)) =
      descend name depth (.obj members) := by
  cases depth with
  | zero => simp only [descend, Json.get?, Json.lookup_put_of_ne named]
  | succ depth =>
    have scope : nestedScopeName ≠ "doc_count" := by decide
    simp only [descend, Json.get?, Json.lookup_put_of_ne scope]

variable [Scalar R]

theorem descend_breakdownOf {name : String} (named : name ≠ "doc_count") (docs : List (Json R))
    (path : List String) (metric : Metric R) :
    descend name path.length (.obj (Store.breakdownOf docs (wrap path name metric))) =
      .ok (Store.resultOf docs metric) := by
  induction path with
  | nil => simp [wrap, Store.breakdownOf, descend, Json.get?, Json.lookup]
  | cons p path ih =>
    have inner : wrap (p :: path) name metric = .nested p (wrap path name metric) := rfl
    rw [inner, Store.breakdownOf, List.length_cons, descend, Json.get?, Json.lookup, if_pos rfl]
    exact (descend_put named _ _ _).trans ih

/-- The result of a metric is found in the answer of a store, however deep its field is nested. -/
theorem unwrap_answer {name : String} (named : name ≠ "doc_count") (st : Store R) (index : String)
    (query : Option (Query R)) (path : List String) (metric : Metric R) :
    unwrap path name (st.answer ⟨index, query, .breakdown (.wrap path name metric)⟩) =
      .ok (Store.resultOf (st.selected index query) metric) := by
  rw [← descend_breakdownOf named (st.selected index query) path metric]
  simp only [unwrap, Store.answer, Json.object, Json.get?, List.filterMap_cons, Option.map_some,
    List.filterMap_nil, Json.lookup]
  rfl

end Breakdown

/-! ### Pages -/

namespace Store

/-- A count as it stands in an answer. -/
def termBucket (count : Json R × Nat) : Json R :=
  .obj [("key", .obj [(termSourceName, count.1)]), ("doc_count", .int count.2)]

/-- The cursor behind the counts that have been read. -/
def cursorBehind (read : List (Json R × Nat)) : Option (Json R) :=
  read.getLast?.map fun count => .obj [(termSourceName, count.1)]

/-- Behind what has been read and a page is behind the page. -/
theorem exists_cursorBehind {page : List (Json R × Nat)} (some : page ≠ [])
    (read : List (Json R × Nat)) :
    ∃ next, cursorBehind page = .some next ∧ cursorBehind (read ++ page) = .some next := by
  obtain ⟨count, hcount⟩ := Option.isSome_iff_exists.mp (List.getLast?_isSome.mpr some)
  exact ⟨_, by rw [cursorBehind, hcount, Option.map_some],
    by rw [cursorBehind, List.getLast?_append, hcount, Option.some_or, Option.map_some]⟩

variable [Scalar R]

/-- The answer for a page: its counts, and the cursor behind them. -/
theorem termsOf_eq (docs : List (Json R)) (field : String) (size : Nat) (after : Option (Json R)) :
    termsOf docs field size after = Json.object [
      ("buckets", some (.arr ((termPage (termCounts docs field) size after).map termBucket))),
      ("after_key", cursorBehind (termPage (termCounts docs field) size after))] := rfl

/-- There are no more full pages than the store holds values. -/
theorem pages_le_size (st : Store R) (index : String) (query : Option (Query R)) (field : String)
    (pageSize : Nat) : (termCounts (st.selected index query) field).length / pageSize ≤ st.size := by
  have keys := length_termCounts_le (st.selected index query) field
  have held := st.sizeItems_selected_le index query
  have pages := Nat.div_le_self (termCounts (st.selected index query) field).length pageSize
  omega

/-- A page behind what has been read starts with what has not. -/
theorem termPage_behind {read rest : List (Json R × Nat)}
    (terms : ∀ count ∈ read ++ rest, IsTermKey count.1)
    (sorted : (read ++ rest).Pairwise fun a b => keyRank a.1 < keyRank b.1) (size : Nat) :
    termPage (read ++ rest) size (cursorBehind read) = rest.take size := by
  rcases List.eq_nil_or_concat read with rfl | ⟨before, last, rfl⟩
  · rfl
  · rw [List.concat_eq_append] at terms sorted ⊢
    have lastTerm := terms last (by simp)
    have later : ∀ count ∈ rest, (compareValues count.1 last.1).isGT = true := fun count h =>
      (compareValues_isGT_iff (terms count (by simp [h])) lastTerm).mpr
        ((List.pairwise_append.mp sorted).2.2 last (by simp) count h)
    have earlier : ∀ count ∈ before ++ [last], ¬(compareValues count.1 last.1).isGT = true := by
      intro count h
      rw [compareValues_isGT_iff (terms count (List.mem_append_left _ h)) lastTerm]
      rcases List.mem_append.mp h with h | h
      · exact ((List.pairwise_append.mp (List.pairwise_append.mp sorted).1).2.2 count h last (by simp)).asymm
      · rw [List.mem_singleton.mp h]
        exact lt_irrefl _
    have behind :
        (before ++ [last] ++ rest).filter (fun count => (compareValues count.1 last.1).isGT) = rest := by
      rw [List.filter_append, List.filter_eq_nil_iff.mpr earlier, List.nil_append]
      exact List.filter_eq_self.mpr later
    simp only [cursorBehind, List.getLast?_concat, Option.map_some, termPage, Json.get?,
      Json.lookup, if_pos, Option.getD_some]
    rw [behind]

end Store

namespace TermTally

theorem countPage_append [Scalar R] (missingKey : Option String) (tally : TermTally)
    (page rest : List (Json R)) :
    tally.countPage missingKey (page ++ rest) =
      (tally.countPage missingKey page >>= fun tally => tally.countPage missingKey rest) := by
  induction page generalizing tally with
  | nil => rfl
  | cons bucket page ih =>
    simp only [List.cons_append, countPage]
    cases tally.count missingKey bucket with
    | error e => rfl
    | ok tally => exact ih tally

end TermTally

namespace TermsRequest

open Store (termBucket cursorBehind termCounts termPage)

variable [Scalar R]

/-- The counts of a plan in a store. -/
def Plan.counts (plan : Plan R) (st : Store R) : List (Json R × Nat) :=
  termCounts (st.selected plan.index plan.query) plan.field.name

/-- A page as it is read off the answer of a store. -/
theorem Plan.readPage_answer (plan : Plan R) (st : Store R) (after : Option (Json R)) :
    plan.readPage (st.answer (plan.search after)) =
      .ok ((termPage (plan.counts st) plan.pageSize after).map termBucket,
        cursorBehind (termPage (plan.counts st) plan.pageSize after)) := by
  have named : termsName ≠ "doc_count" := by decide
  have read : Breakdown.unwrap plan.field.nestedPath termsName (st.answer (plan.search after)) =
      .ok (Store.termsOf (st.selected plan.index plan.query) plan.field.name plan.pageSize after) :=
    Breakdown.unwrap_answer named st _ _ _ _
  rw [readPage, read, counts, Store.termsOf_eq]
  generalize termPage (termCounts (st.selected plan.index plan.query) plan.field.name) plan.pageSize after = page
  rw [cursorBehind]
  cases page.getLast? <;> rfl

/-- One page from a store, and the pages behind it. -/
theorem Plan.pages_succ_onStore {plan : Plan R} {st : Store R} {after : Option (Json R)}
    {page : List (Json R × Nat)} (first : termPage (plan.counts st) plan.pageSize after = page)
    (patience : Nat) (tally : TermTally) :
    (plan.pages (patience + 1) after tally).onStore st =
      (Outcome.ofExcept (tally.countPage plan.missingKey (page.map termBucket))).bind fun tally =>
        match if page.length < plan.pageSize then none else cursorBehind page with
        | some next => (plan.pages patience (some next) tally).onStore st
        | none => .value tally := by
  rw [pages, Dialogue.onStore_bind, Dialogue.onStore_searchReading, readPage_answer, first]
  simp only [bind, Except.bind, List.length_map]
  cases tally.countPage plan.missingKey (page.map termBucket) with
  | error e => rfl
  | ok tally =>
    simp only [pure, Except.pure, Outcome.ofExcept_ok, Outcome.value_bind]
    generalize (if page.length < plan.pageSize then none else cursorBehind page) = cursor
    cases cursor <;> rfl

/-- The page behind what has been read is taken from what has not been read. -/
theorem Plan.termPage_counts {plan : Plan R} {st : Store R}
    (texts : ∀ doc ∈ st.selected plan.index plan.query, holdsTexts doc plan.field.name = true)
    {read rest : List (Json R × Nat)} (whole : plan.counts st = read ++ rest) :
    termPage (plan.counts st) plan.pageSize (cursorBehind read) = rest.take plan.pageSize := by
  obtain ⟨terms, sorted⟩ := Store.termCounts_pairwise texts
  rw [← counts, whole] at terms sorted
  rw [whole]
  exact Store.termPage_behind terms sorted plan.pageSize

/-- Behind what has been read, the pages are what has not been read. -/
theorem Plan.pages_behind_onStore {plan : Plan R} {st : Store R}
    (texts : ∀ doc ∈ st.selected plan.index plan.query, holdsTexts doc plan.field.name = true)
    (full : 0 < plan.pageSize) {patience : Nat} {read rest : List (Json R × Nat)}
    (whole : plan.counts st = read ++ rest) (enough : rest.length / plan.pageSize < patience)
    (tally : TermTally) :
    (plan.pages patience (cursorBehind read) tally).onStore st =
      .ofExcept (tally.countPage plan.missingKey (rest.map termBucket)) := by
  induction patience generalizing read rest tally with
  | zero => exact absurd enough (Nat.not_lt_zero _)
  | succ patience ih =>
    rw [pages_succ_onStore (termPage_counts texts whole)]
    by_cases last : (rest.take plan.pageSize).length < plan.pageSize
    · -- a page that is not full is all that is left
      have all : rest.take plan.pageSize = rest := by
        refine List.take_of_length_le ?_
        rw [List.length_take] at last
        omega
      rw [if_pos last, all]
      cases tally.countPage plan.missingKey (rest.map termBucket) <;> rfl
    · rw [if_neg last]
      have filled : rest.take plan.pageSize ≠ [] := List.ne_nil_of_length_pos (by omega)
      obtain ⟨next, cursor, further⟩ := Store.exists_cursorBehind filled read
      have split : rest.map termBucket =
          (rest.take plan.pageSize).map termBucket ++ (rest.drop plan.pageSize).map termBucket := by
        rw [← List.map_append, List.take_append_drop]
      rw [cursor, split, TermTally.countPage_append]
      cases tally.countPage plan.missingKey ((rest.take plan.pageSize).map termBucket) with
      | error e => rfl
      | ok tally =>
        have whole :
            plan.counts st = read ++ rest.take plan.pageSize ++ rest.drop plan.pageSize := by
          rw [List.append_assoc, List.take_append_drop, whole]
        have fewer : (rest.drop plan.pageSize).length / plan.pageSize < patience := by
          rw [List.length_take] at last
          rw [List.length_drop]
          have less := Nat.div_eq_sub_div full (show plan.pageSize ≤ rest.length by omega)
          omega
        have following := ih whole fewer tally
        rw [further] at following
        exact following

/-- All pages together are the counts of the store. -/
theorem Plan.pages_onStore {plan : Plan R} {st : Store R}
    (texts : ∀ doc ∈ st.selected plan.index plan.query, holdsTexts doc plan.field.name = true)
    (full : 0 < plan.pageSize) {patience : Nat}
    (enough : (plan.counts st).length / plan.pageSize < patience) (tally : TermTally) :
    (plan.pages patience none tally).onStore st =
      .ofExcept (tally.countPage plan.missingKey ((plan.counts st).map termBucket)) := by
  have whole : plan.counts st = [] ++ plan.counts st := rfl
  exact pages_behind_onStore texts full whole enough tally

/-- The counts of a store that is small enough fit the words of an answer. -/
theorem Plan.isSigned_counts (plan : Plan R) {st : Store R} (small : st.size < Number.signedBound) :
    ∀ count ∈ plan.counts st, Number.isSigned count.2 = true := by
  intro count listed
  rw [counts] at listed
  have le := Store.count_le_of_mem_termCounts listed
  have held := st.sizeItems_selected_le plan.index plan.query
  rw [Number.isSigned_iff]
  omega

end TermsRequest

/-! ### Adding pages up -/

namespace TermTally

open Store (termBucket IsTermKey)

/-- Whether the documents of a key are counted as missing: those of null where missing values are counted, and
those that hold the missing key. -/
def ofMissing (missingKey : Option String) : Json R → Bool
  | .null => missingKey.isSome
  | .str s => missingKey = some s
  | _ => false

/-- The bucket of a text that is not the missing key. -/
def listed? (missingKey : Option String) (count : Json R × Nat) : Option TermBucket :=
  match count.1 with
  | .str s => if missingKey = some s then none else some ⟨s, count.2⟩
  | _ => none

/-- A tally with further counts: the texts are listed behind the others, and the rest is added to the documents
without a value. -/
def add (missingKey : Option String) (tally : TermTally) (counts : List (Json R × Nat)) : TermTally where
  buckets := tally.buckets ++ counts.filterMap (listed? missingKey)
  missing :=
    let lost := counts.filter fun count => ofMissing missingKey count.1
    if lost.isEmpty then tally.missing
    else some (Number.wrapSigned (tally.missing.getD 0 + (lost.map Prod.snd).sum))

theorem ofMissing_str (missingKey : Option String) (s : String) :
    ofMissing missingKey (.str s : Json R) = decide (missingKey = some s) := rfl

theorem listed?_str (missingKey : Option String) (s : String) (n : Nat) :
    listed? missingKey ((.str s, n) : Json R × Nat) = if missingKey = some s then none else some ⟨s, n⟩ := rfl

theorem wrapSigned_add (m n : Int) :
    Number.wrapSigned (Number.wrapSigned m + n) = Number.wrapSigned (m + n) := by
  unfold Number.wrapSigned
  rw [show (m + Number.signedBound) % (Number.wordBound : Int) - Number.signedBound + n + Number.signedBound =
      (m + Number.signedBound) % (Number.wordBound : Int) + n by omega, Int.emod_add_emod]
  congr 2
  omega

@[simp] theorem add_nil (missingKey : Option String) (tally : TermTally) :
    tally.add missingKey ([] : List (Json R × Nat)) = tally := by
  simp [add]

/-- Counts are added one after the other. -/
theorem add_cons (missingKey : Option String) (tally : TermTally) (count : Json R × Nat)
    (counts : List (Json R × Nat)) :
    tally.add missingKey (count :: counts) = (tally.add missingKey [count]).add missingKey counts := by
  unfold add
  rw [TermTally.mk.injEq]
  constructor
  · cases h : listed? missingKey count <;> simp [h]
  · rw [List.filter_cons, List.filter_singleton]
    cases ofMissing missingKey count.1 with
    | false => simp
    | true =>
      simp only [if_true, cond_true, List.isEmpty_cons, Bool.false_eq_true, if_false, List.map_cons, List.map_nil,
        List.sum_cons, List.sum_nil, Nat.add_zero, Option.getD_some]
      split
      next none => simp [List.isEmpty_iff.mp none]
      next =>
        rw [wrapSigned_add]
        congr 2
        omega

/-- A count of missing documents changes their number. -/
theorem add_singleton_of_ofMissing {missingKey : Option String} {count : Json R × Nat}
    (missing : ofMissing missingKey count.1 = true) (unlisted : listed? missingKey count = none)
    (tally : TermTally) : tally.add missingKey [count] =
      { tally with missing := some (Number.wrapSigned (tally.missing.getD 0 + count.2)) } := by
  simp only [add, List.filter_singleton, missing, cond_true, List.filterMap_cons, unlisted, List.filterMap_nil,
    List.append_nil, List.isEmpty_cons, Bool.false_eq_true, if_false, List.map_cons, List.map_nil, List.sum_cons,
    List.sum_nil, Nat.add_zero]

/-- Any other count leaves that number as it is. -/
theorem add_singleton_of_not_ofMissing {missingKey : Option String} {count : Json R × Nat}
    (other : ofMissing missingKey count.1 = false) (tally : TermTally) : tally.add missingKey [count] =
      { tally with buckets := tally.buckets ++ (listed? missingKey count).toList } := by
  simp only [add, List.filter_singleton, other, cond_false, List.isEmpty_nil, if_true, List.filterMap_cons,
    List.filterMap_nil]
  cases listed? missingKey count <;> rfl

theorem docCount_termBucket (k : Json R) {n : Nat} (signed : Number.isSigned n = true) :
    ((termBucket (k, n)).get? "doc_count").bind Json.int? = some (n : Int) := by
  have member : (termBucket (k, n)).get? "doc_count" = some (.int n) := rfl
  rw [member, Option.bind_some, Json.int?, if_pos signed]

variable [Scalar R]

/-- Counting a bucket adds its count. -/
theorem count_eq_add {k : Json R} (term : IsTermKey k) {n : Nat} (signed : Number.isSigned n = true)
    (missingKey : Option String) (tally : TermTally) :
    tally.count missingKey (termBucket (k, n)) = .ok (tally.add missingKey [(k, n)]) := by
  rcases term with rfl | ⟨s, rfl⟩
  · have unnamed : termOf (termBucket ((.null, n) : Json R × Nat)) = none := rfl
    cases missingKey with
    | none =>
      rw [add_singleton_of_not_ofMissing rfl, TermTally.count, docCount_termBucket _ signed, unnamed, listed?,
        Option.toList_none, List.append_nil]
    | some missingKey =>
      rw [add_singleton_of_ofMissing rfl rfl, TermTally.count, docCount_termBucket _ signed, unnamed]
  · have named : termOf (termBucket ((.str s, n) : Json R × Nat)) = some s := rfl
    rw [TermTally.count, docCount_termBucket _ signed, named]
    by_cases missing : missingKey = some s
    · have counted : ofMissing missingKey (.str s : Json R) = true := decide_eq_true missing
      rw [add_singleton_of_ofMissing counted ((listed?_str missingKey s n).trans (if_pos missing))]
      exact if_pos missing
    · have other : ofMissing missingKey (.str s : Json R) = false := decide_eq_false missing
      rw [add_singleton_of_not_ofMissing other, listed?_str, if_neg missing]
      exact if_neg missing

/-- Counting a page adds its counts. -/
theorem countPage_eq_add {counts : List (Json R × Nat)} (terms : ∀ count ∈ counts, IsTermKey count.1)
    (signed : ∀ count ∈ counts, Number.isSigned count.2 = true) (missingKey : Option String)
    (tally : TermTally) :
    tally.countPage missingKey (counts.map termBucket) = .ok (tally.add missingKey counts) := by
  induction counts generalizing tally with
  | nil => rw [add_nil, List.map_nil, countPage]
  | cons count counts ih =>
    obtain ⟨term, terms⟩ := List.forall_mem_cons.mp terms
    obtain ⟨fits, signed⟩ := List.forall_mem_cons.mp signed
    rw [List.map_cons, countPage, count_eq_add term fits]
    exact (ih terms signed _).trans (congrArg _ (add_cons missingKey tally count counts).symm)

end TermTally

/-! ### What is listed -/

namespace TermTally

open Store (termBucket IsTermKey)

variable [Scalar R]

/-- Whether a key is among the buckets of a tally, the missing key standing for documents without a
value. -/
def Lists (missingKey : String) (tally : TermTally) (key : String) : Prop :=
  key ∈ tally.buckets.map (·.key) ∨ tally.missing.isSome = true ∧ key = missingKey

theorem mem_keys_sorted {missingKey : String} {tally : TermTally} {key : String} :
    key ∈ (tally.sorted (some missingKey)).map (·.key) ↔ tally.Lists missingKey key := by
  have listed : key ∈ (Sorting.stable (fun a b => b.count < a.count) tally.buckets).map (·.key) ↔
      key ∈ tally.buckets.map (·.key) := ((Sorting.stable_perm _).map _).mem_iff
  unfold sorted Lists
  cases tally.missing with
  | none => simp
  | some n => simp only [List.map_append, List.mem_append, listed]; simp

omit [Scalar R] in
/-- There is a bucket for each count of a text that is not the missing key. -/
theorem mem_filterMap_listed?_iff {counts : List (Json R × Nat)} (terms : ∀ count ∈ counts, IsTermKey count.1)
    (missingKey : Option String) (b : TermBucket) :
    b ∈ counts.filterMap (listed? missingKey) ↔
      missingKey ≠ some b.key ∧ ∃ n : Nat, (Json.str b.key, n) ∈ counts ∧ b.count = n := by
  rw [List.mem_filterMap]
  constructor
  · rintro ⟨⟨k, n⟩, hcount, made⟩
    rcases terms _ hcount with rfl | ⟨s, rfl⟩
    · cases made
    · rw [listed?_str] at made
      split at made
      · cases made
      next other =>
        cases made
        exact ⟨other, n, hcount, rfl⟩
  · rintro ⟨other, n, hcount, same⟩
    refine ⟨_, hcount, ?_⟩
    rw [listed?_str, if_neg other, ← same]

omit [Scalar R] in
/-- Counts list the missing key where they count documents as missing, and a text that is counted. -/
theorem lists_add_iff {counts : List (Json R × Nat)} (terms : ∀ count ∈ counts, IsTermKey count.1)
    (missingKey key : String) :
    (({} : TermTally).add (some missingKey) counts).Lists missingKey key ↔
      .str key ∈ counts.map Prod.fst ∨ .null ∈ counts.map Prod.fst ∧ key = missingKey := by
  have missing : (({} : TermTally).add (some missingKey) counts).missing.isSome = true ↔
      .null ∈ counts.map Prod.fst ∨ .str missingKey ∈ counts.map Prod.fst := by
    have lost : (counts.filter fun count => ofMissing (some missingKey) count.1) ≠ [] ↔
        .null ∈ counts.map Prod.fst ∨ .str missingKey ∈ counts.map Prod.fst := by
      rw [ne_eq, List.filter_eq_nil_iff]
      constructor
      · intro some
        push Not at some
        obtain ⟨⟨k, n⟩, hcount, counted⟩ := some
        rcases terms _ hcount with rfl | ⟨s, rfl⟩
        · exact .inl (List.mem_map_of_mem hcount)
        · rw [ofMissing_str, decide_eq_true_iff] at counted
          cases counted
          exact .inr (List.mem_map_of_mem hcount)
      · rintro (h | h) none
        · obtain ⟨count, hcount, named⟩ := List.mem_map.mp h
          refine none count hcount ?_
          rw [named]
          rfl
        · obtain ⟨count, hcount, named⟩ := List.mem_map.mp h
          refine none count hcount ?_
          rw [named, ofMissing_str]
          exact decide_eq_true rfl
    rw [← lost, add]
    dsimp only
    split
    next none => simp [List.isEmpty_iff.mp none]
    next some => simpa [List.isEmpty_iff] using some
  have buckets : key ∈ (({} : TermTally).add (some missingKey) counts).buckets.map (·.key) ↔
      key ≠ missingKey ∧ .str key ∈ counts.map Prod.fst := by
    rw [add, List.nil_append, List.mem_map]
    constructor
    · rintro ⟨b, hb, rfl⟩
      obtain ⟨other, n, hcount, -⟩ := (mem_filterMap_listed?_iff terms _ b).mp hb
      exact ⟨fun same => other (congrArg some same.symm), List.mem_map_of_mem hcount⟩
    · rintro ⟨other, held⟩
      obtain ⟨⟨k, n⟩, hcount, rfl⟩ := List.mem_map.mp held
      have apart : some missingKey ≠ some key := fun same => other (Option.some.inj same).symm
      exact ⟨⟨key, n⟩, (mem_filterMap_listed?_iff terms _ _).mpr ⟨apart, n, hcount, rfl⟩, rfl⟩
  rw [Lists, buckets, missing]
  by_cases same : key = missingKey
  · subst same
    tauto
  · tauto

/-- Counting documents without a value lists the missing key, however many there are. -/
theorem isSome_missing_count_null {n : Nat} {missingKey : String} {tally counted : TermTally}
    (h : tally.count (some missingKey) (termBucket ((.null, n) : Json R × Nat)) = .ok counted) :
    counted.missing.isSome = true := by
  have unnamed : termOf (termBucket ((.null, n) : Json R × Nat)) = none := rfl
  rw [count, unnamed] at h
  split at h
  · cases h
  · cases h
    rfl

/-- Once there was a document without a value, the missing key stays listed. -/
theorem isSome_missing_countPage {missingKey : Option String} {tally counted : TermTally}
    {page : List (Json R)} (h : tally.countPage missingKey page = .ok counted)
    (before : tally.missing.isSome = true) : counted.missing.isSome = true := by
  induction page generalizing tally with
  | nil =>
    cases h
    exact before
  | cons bucket page ih =>
    simp only [countPage, count] at h
    split at h
    next => cases h
    next n _ =>
      split at h
      · exact ih h rfl
      · exact ih h before
      · split at h
        · exact ih h rfl
        · exact ih h before

end TermTally

namespace TermsRequest

open Store (termBucket termPage)

variable [Scalar R] {ctx : Context} {index : String} {req : TermsRequest R}

/-- An enumeration is planned when the index has the field and the filters compile. -/
theorem plan_eq_ok_iff {plan : Plan R} : req.plan ctx index = .ok plan ↔ ∃ s f query,
    ctx.schema index = .ok s ∧ s.field? req.field = some f ∧
    ctx.compileFilter index req.filter req.excludeField req.filterSelf req.extra = .ok query ∧
    plan = ⟨index, f, query, ctx.config.aggregation.pageSize, req.missingKey⟩ := by
  unfold TermsRequest.plan Schema.aggregated
  cases ctx.schema index with
  | error e => simp [bind, Except.bind]
  | ok s =>
    cases hf : s.field? req.field with
    | none => simp [bind, Except.bind, hf]
    | some f =>
      cases ctx.compileFilter index req.filter req.excludeField req.filterSelf req.extra with
      | error e => simp [bind, Except.bind, hf]
      | ok query => simp [bind, Except.bind, pure, Except.pure, hf, eq_comm]

/-- Only what is planned has a value. -/
theorem exists_plan_of_run_onStore {st : Store R} {buckets : List TermBucket}
    (h : (req.run ctx index).onStore st = .value buckets) :
    ∃ plan, req.plan ctx index = .ok plan := by
  rw [run, enumerate, Dialogue.onStore_bounded, Outcome.bounded_eq_value_iff, Dialogue.onStore_bind,
    Outcome.bind_eq_value_iff] at h
  obtain ⟨plan, planned, -⟩ := h
  rw [Dialogue.onStore_ofExcept, Outcome.ofExcept_eq_value_iff] at planned
  exact ⟨plan, planned⟩

/-- What a listing answers is the tally of its pages, sorted. -/
theorem exists_tally_of_run_onStore {plan : Plan R} {st : Store R} (planned : req.plan ctx index = .ok plan)
    {buckets : List TermBucket} (h : (req.run ctx index).onStore st = .value buckets) :
    ∃ tally, (plan.pages ctx.patience none {}).onStore st = .value tally ∧
      buckets = tally.sorted req.missingKey := by
  rw [run, enumerate, planned, Dialogue.onStore_bounded, Outcome.bounded_eq_value_iff, Dialogue.ofExcept_ok,
    Dialogue.value_bind, Dialogue.onStore_bind, Outcome.bind_eq_value_iff] at h
  obtain ⟨tally, read, sorted⟩ := h
  cases sorted
  exact ⟨tally, read, rfl⟩

theorem counts_of_plan {plan : Plan R} (planned : req.plan ctx index = .ok plan) (st : Store R) :
    plan.counts st = Store.termCounts (st.selected index plan.query) req.field := by
  obtain ⟨s, f, query, -, found, -, rfl⟩ := plan_eq_ok_iff.mp planned
  rw [Plan.counts, Schema.name_of_field? found]

section Texts

variable {plan : Plan R} (planned : req.plan ctx index = .ok plan) {st : Store R}
  (texts : ∀ doc ∈ st.selected index plan.query, holdsTexts doc req.field = true)
  (full : 0 < ctx.config.aggregation.pageSize) (small : st.size < Number.signedBound)

include planned texts full small

/-- Where the patience exceeds the number of full pages, the pages of texts add up to all counts of the store. -/
theorem pages_onStore_eq_add {patience : Nat}
    (enough : (Store.termCounts (st.selected index plan.query) req.field).length /
      ctx.config.aggregation.pageSize < patience) :
    (plan.pages patience none {}).onStore st =
      .value (({} : TermTally).add req.missingKey (Store.termCounts (st.selected index plan.query) req.field)) := by
  have counts := counts_of_plan planned st
  have signed := plan.isSigned_counts small
  obtain ⟨s, f, query, -, found, -, rfl⟩ := plan_eq_ok_iff.mp planned
  have holds : ∀ doc ∈ st.selected index query, holdsTexts doc f.name = true := by
    rw [Schema.name_of_field? found]
    exact texts
  rw [← counts] at enough ⊢
  have added := TermTally.countPage_eq_add (Store.termCounts_pairwise holds).1 signed req.missingKey {}
  exact (Plan.pages_onStore holds full enough {}).trans (congrArg Outcome.ofExcept added)

/-- A listing of texts answers with all counts of the store, sorted. -/
theorem run_onStore_eq (enough : (Store.termCounts (st.selected index plan.query) req.field).length /
      ctx.config.aggregation.pageSize < ctx.patience) :
    (req.run ctx index).onStore st = .value ((({} : TermTally).add req.missingKey
      (Store.termCounts (st.selected index plan.query) req.field)).sorted req.missingKey) := by
  rw [run, enumerate, planned, Dialogue.onStore_bounded, Dialogue.ofExcept_ok, Dialogue.value_bind,
    Dialogue.onStore_bind, pages_onStore_eq_add planned texts full small enough]
  rfl

end Texts

/-- Listed from a store are the texts that some document holds, and the missing key when some
document has none. -/
theorem exists_run_onStore {plan : Plan R} {missingKey : String}
    (planned : req.plan ctx index = .ok plan)
    (missing : req.missingKey = some missingKey) {st : Store R}
    (texts : ∀ doc ∈ st.selected index plan.query, holdsTexts doc req.field = true)
    (full : 0 < ctx.config.aggregation.pageSize) (enough : st.size < ctx.patience)
    (small : st.size < Number.signedBound) :
    ∃ buckets, (req.run ctx index).onStore st = .value buckets ∧ ∀ key, key ∈ buckets.map (·.key) ↔
      (∃ doc ∈ st.selected index plan.query, key ∈ textsAt doc req.field) ∨
      (∃ doc ∈ st.selected index plan.query, valuesAt doc req.field = []) ∧ key = missingKey := by
  have pages := st.pages_le_size index plan.query req.field ctx.config.aggregation.pageSize
  refine ⟨_, run_onStore_eq planned texts full small (pages.trans_lt enough), fun key => ?_⟩
  rw [missing, TermTally.mem_keys_sorted, TermTally.lists_add_iff (Store.termCounts_pairwise texts).1,
    Store.mem_termCounts (Store.isTermKey_str key), Store.mem_termCounts Store.isTermKey_null]
  simp only [Store.str_mem_termKeys, Store.null_mem_termKeys]

/-- Once there was a document without a value, no page makes the tally forget it. -/
theorem Plan.isSome_missing_pages {plan : Plan R} {st : Store R} {patience : Nat}
    {after : Option (Json R)}
    {tally counted : TermTally} (h : (plan.pages patience after tally).onStore st = .value counted)
    (before : tally.missing.isSome = true) : counted.missing.isSome = true := by
  induction patience generalizing after tally with
  | zero => cases h
  | succ patience ih =>
    rw [pages_succ_onStore rfl, Outcome.bind_eq_value_iff] at h
    obtain ⟨first, page, h⟩ := h
    rw [Outcome.ofExcept_eq_value_iff] at page
    have first := TermTally.isSome_missing_countPage page before
    split at h
    · exact ih h first
    · cases h
      exact first

/-- Whatever else the field holds, a document without a value is listed under the missing key. -/
theorem missingKey_mem_of_run_onStore {plan : Plan R} {missingKey : String}
    (planned : req.plan ctx index = .ok plan)
    (missing : req.missingKey = some missingKey) (full : 0 < ctx.config.aggregation.pageSize)
    {st : Store R}
    {buckets : List TermBucket} (h : (req.run ctx index).onStore st = .value buckets) {doc : Json R}
    (stored : doc ∈ st.selected index plan.query) (lacking : valuesAt doc req.field = []) :
    missingKey ∈ buckets.map (·.key) := by
  obtain ⟨s, f, query, -, -, -, hplan⟩ := plan_eq_ok_iff.mp planned
  obtain ⟨tally, read, rfl⟩ := exists_tally_of_run_onStore planned h
  rw [missing, TermTally.mem_keys_sorted]
  refine .inr ⟨?_, rfl⟩
  -- the first page starts with the documents without a value
  obtain ⟨n, rest, first⟩ := Store.termCounts_null_first stored lacking
  have docs : plan.counts st = (.null, n) :: rest := (counts_of_plan planned st).trans first
  cases hpatience : ctx.patience with
  | zero =>
    rw [hpatience] at read
    cases read
  | succ patience =>
    rw [hpatience, Plan.pages_succ_onStore rfl, Outcome.bind_eq_value_iff] at read
    obtain ⟨first, page, read⟩ := read
    obtain ⟨size, hsize⟩ := Nat.exists_eq_succ_of_ne_zero full.ne'
    have start : termPage (plan.counts st) plan.pageSize none = (.null, n) :: rest.take size := by
      rw [docs, hplan, hsize]
      rfl
    rw [Outcome.ofExcept_eq_value_iff, start, List.map_cons, TermTally.countPage] at page
    obtain ⟨counted, null, page⟩ := bind_eq_ok_iff.mp page
    rw [show plan.missingKey = some missingKey by rw [hplan, missing]] at null
    have known := TermTally.isSome_missing_countPage page (TermTally.isSome_missing_count_null null)
    split at read
    · exact Plan.isSome_missing_pages read known
    · cases read
      exact known

end TermsRequest

end TieredSearch
