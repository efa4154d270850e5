import TieredSearch.Proofs.Aggregation.Agreement
import TieredSearch.Proofs.Search.Exchange
import Mathlib.Data.List.Dedup

/-!
# A listing groups the documents

The listing of a field of texts, read page by page through a cursor, is what grouping the documents by their
texts at once would give: `GroupedBy` says of a list of buckets that it is the groups, in descending order of
their counts and where these are equal in the order of the texts; `lostBuckets` is the bucket of the documents
that have no text or hold the alias, behind all others whatever its count.

`listing_groups_documents` is the theorem: for every page size the answer is the groups and that bucket, and it
takes one search for each page that the distinct keys fill (`distinctKeys`), and one more. The cursor may fall on
any key, on null and on the last one.
-/

namespace TieredSearch

open Document (valuesAt textsAt holdsTexts)
open Store (IsTermKey termKeys termCounts countUnder cursorBehind termBucket termPage)

variable {R : Type}

/-! ### Groups -/

/-- Buckets that are the groups of documents by the texts of a field. -/
structure GroupedBy (docs : List (Json R)) (field : String) (missingAlias : Option String)
    (buckets : List TermBucket) : Prop where
  /-- There is a bucket for each text of a document other than the alias, and it counts the documents that hold
  the text. -/
  mem_iff : ∀ b : TermBucket, b ∈ buckets ↔
    missingAlias ≠ some b.key ∧ (∃ doc ∈ docs, b.key ∈ textsAt doc field) ∧
      b.count = docs.countP fun doc => b.key ∈ textsAt doc field
  /-- No text has two buckets. -/
  once : (buckets.map (·.key)).Nodup
  /-- Greater counts come first, and of equal counts the lesser text. -/
  ordered : buckets.Pairwise fun a b => b.count < a.count ∨ b.count = a.count ∧ a.key < b.key

/-- How many documents have no value of a field or hold the alias. -/
def lostCount (docs : List (Json R)) (field missingKey : String) : Nat :=
  docs.countP fun doc => (valuesAt doc field).isEmpty || missingKey ∈ textsAt doc field

/-- The bucket of the alias, if there is an alias and a document to count. -/
def lostBuckets (docs : List (Json R)) (field : String) : Option String → List TermBucket
  | some missingKey =>
    if lostCount docs field missingKey = 0 then [] else [⟨missingKey, lostCount docs field missingKey⟩]
  | none => []

/-- How many keys the documents are counted under: their distinct texts, and null where one has no value. -/
def distinctKeys (docs : List (Json R)) (field : String) : Nat :=
  (docs.flatMap (textsAt · field)).dedup.length +
    if docs.any fun doc => (valuesAt doc field).isEmpty then 1 else 0

variable [Scalar R]

/-! ### Counts and groups -/

namespace Store

variable {docs : List (Json R)} {field : String}

omit [Scalar R] in
/-- Of distinct keys all are texts, but for null. -/
theorem length_of_isTermKey {keys : List (Json R)} (terms : ∀ k ∈ keys, IsTermKey k) (distinct : keys.Nodup) :
    keys.length = (keys.filterMap Json.str?).length + if keys.any Json.isNull then 1 else 0 := by
  induction keys with
  | nil => rfl
  | cons k keys ih =>
    obtain ⟨term, terms⟩ := List.forall_mem_cons.mp terms
    obtain ⟨fresh, distinct⟩ := List.nodup_cons.mp distinct
    rw [List.length_cons, ih terms distinct]
    rcases term with rfl | ⟨s, rfl⟩
    · have once : keys.any Json.isNull = false := by
        rw [List.any_eq_false]
        intro k hk null
        cases k with
        | null => exact fresh hk
        | _ => cases null
      rw [List.any_cons, once]
      rfl
    · simp only [List.filterMap_cons, Json.str?, List.length_cons, List.any_cons, Json.isNull, Bool.false_or]
      omega

/-- There are as many counts as distinct keys. -/
theorem length_termCounts (texts : ∀ doc ∈ docs, holdsTexts doc field = true) :
    (termCounts docs field).length = distinctKeys docs field := by
  have terms : ∀ k ∈ (termCounts docs field).map Prod.fst, IsTermKey k := by
    intro k hk
    obtain ⟨count, hcount, rfl⟩ := List.mem_map.mp hk
    exact (termCounts_pairwise texts).1 count hcount
  have distinct := nodup_termCounts texts
  have held : (((termCounts docs field).map Prod.fst).filterMap Json.str?).Perm
      (docs.flatMap (textsAt · field)).dedup := by
    have once : (((termCounts docs field).map Prod.fst).filterMap Json.str?).Nodup := by
      refine distinct.filterMap ?_
      intro k l s hk hl
      cases k <;> cases hk
      cases l <;> cases hl
      rfl
    refine (List.perm_ext_iff_of_nodup once (List.nodup_dedup _)).mpr fun s => ?_
    have listed : s ∈ ((termCounts docs field).map Prod.fst).filterMap Json.str? ↔
        Json.str s ∈ (termCounts docs field).map Prod.fst := by
      rw [List.mem_filterMap]
      constructor
      · rintro ⟨k, hk, named⟩
        cases k <;> cases named
        exact hk
      · intro hk
        exact ⟨_, hk, rfl⟩
    rw [listed, mem_termCounts (isTermKey_str s), List.mem_dedup, List.mem_flatMap]
    simp only [str_mem_termKeys]
  have bare : ((termCounts docs field).map Prod.fst).any Json.isNull =
      docs.any fun doc => (valuesAt doc field).isEmpty := by
    have null : ((termCounts docs field).map Prod.fst).any Json.isNull = true ↔
        Json.null ∈ (termCounts docs field).map Prod.fst := by
      rw [List.any_eq_true]
      constructor
      · rintro ⟨k, hk, named⟩
        cases k <;> first | exact hk | cases named
      · intro hk
        exact ⟨_, hk, rfl⟩
    rw [Bool.eq_iff_iff, null, mem_termCounts isTermKey_null, List.any_eq_true]
    simp only [null_mem_termKeys, List.isEmpty_iff]
  rw [← List.length_map (f := Prod.fst), length_of_isTermKey terms distinct, held.length_eq, bare, distinctKeys]

variable (texts : ∀ doc ∈ docs, holdsTexts doc field = true ∧ (textsAt doc field).Nodup)

include texts

/-- A text is counted once for each document that holds it. -/
theorem countUnder_str (s : String) :
    countUnder (termCounts docs field) (.str s) = docs.countP fun doc => s ∈ textsAt doc field := by
  rw [countUnder_termCounts (fun doc h => (texts doc h).1) (fun doc h => nodup_termKeys (texts doc h).1 (texts doc h).2)
    (isTermKey_str s)]
  refine List.countP_congr fun doc _ => ?_
  rw [any_same_iff (isTermKey_str s), str_mem_termKeys, decide_eq_true_iff]

/-- Null and the alias together are counted once for each document without a value and each that holds the
alias. -/
theorem countUnder_null_add_str (missingKey : String) :
    countUnder (termCounts docs field) .null + countUnder (termCounts docs field) (.str missingKey) =
      lostCount docs field missingKey := by
  have null : countUnder (termCounts docs field) .null = docs.countP fun doc => (valuesAt doc field).isEmpty := by
    rw [countUnder_termCounts (fun doc h => (texts doc h).1)
      (fun doc h => nodup_termKeys (texts doc h).1 (texts doc h).2) isTermKey_null]
    refine List.countP_congr fun doc _ => ?_
    rw [any_same_iff isTermKey_null, null_mem_termKeys, List.isEmpty_iff]
  rw [null, countUnder_str texts, lostCount]
  clear null texts
  induction docs with
  | nil => rfl
  | cons doc docs ih =>
    rw [List.countP_cons, List.countP_cons, List.countP_cons, ← ih]
    -- a document without a value does not hold the alias
    by_cases bare : valuesAt doc field = []
    · have without : missingKey ∉ textsAt doc field := by
        rw [textsAt, bare]
        exact List.not_mem_nil
      simp only [bare, List.isEmpty_nil, without, decide_false, Bool.true_or, if_true, Bool.false_eq_true, if_false]
      omega
    · simp only [List.isEmpty_iff, bare, decide_eq_true_eq, Bool.or_eq_true, false_or, if_false]
      omega

end Store

namespace TermTally

variable {docs : List (Json R)} {field : String}

section Listed

variable (texts : ∀ doc ∈ docs, holdsTexts doc field = true) (missingKey : Option String)

include texts

/-- The buckets are read in the order of their texts. -/
theorem pairwise_filterMap_listed? :
    ((termCounts docs field).filterMap (listed? missingKey)).Pairwise fun a b => a.key < b.key := by
  obtain ⟨terms, ascending⟩ := Store.termCounts_pairwise texts
  rw [List.pairwise_filterMap]
  refine ascending.imp_of_mem ?_
  rintro ⟨k, m⟩ ⟨l, n⟩ hk hl less a ha b hb
  rcases terms _ hk with rfl | ⟨s, rfl⟩
  · cases ha
  rcases terms _ hl with rfl | ⟨t, rfl⟩
  · cases hb
  rw [listed?_str] at ha hb
  split at ha
  · cases ha
  split at hb
  · cases hb
  cases ha
  cases hb
  exact WithBot.coe_lt_coe.mp less

/-- Sorting makes no text appear twice. -/
theorem nodup_keys_stable : ((Sorting.stable (fun a b => b.count < a.count)
    ((termCounts docs field).filterMap (listed? missingKey))).map (·.key)).Nodup := by
  refine ((Sorting.stable_perm _).map _).nodup_iff.mpr ?_
  rw [List.Nodup, List.pairwise_map]
  exact (pairwise_filterMap_listed? texts missingKey).imp fun less same => (same ▸ less).false

/-- No text is answered twice, and the missing key comes behind all texts, if at all. -/
theorem exists_keys_sorted_add (missingKey : String) : ∃ held : List String, held.Nodup ∧ missingKey ∉ held ∧
    (((({} : TermTally).add (some missingKey) (termCounts docs field)).sorted (some missingKey)).map (·.key) = held ∨
      ((({} : TermTally).add (some missingKey) (termCounts docs field)).sorted (some missingKey)).map (·.key) =
        held ++ [missingKey]) := by
  have others : missingKey ∉ (Sorting.stable (fun a b => b.count < a.count)
      ((termCounts docs field).filterMap (listed? (some missingKey)))).map (·.key) := by
    intro member
    obtain ⟨b, hb, named⟩ := List.mem_map.mp member
    rw [Sorting.mem_stable, mem_filterMap_listed?_iff (Store.termCounts_pairwise texts).1] at hb
    exact hb.1 (congrArg some named.symm)
  have buckets : (({} : TermTally).add (some missingKey) (termCounts docs field)).buckets =
      (termCounts docs field).filterMap (listed? (some missingKey)) := List.nil_append _
  refine ⟨_, nodup_keys_stable texts (some missingKey), others, ?_⟩
  unfold sorted
  rw [buckets]
  cases (({} : TermTally).add (some missingKey) (termCounts docs field)).missing with
  | none => exact .inl rfl
  | some n => exact .inr List.map_append

end Listed

variable (texts : ∀ doc ∈ docs, holdsTexts doc field = true ∧ (textsAt doc field).Nodup)

include texts

/-- The texts of the counts, sorted by their counts, are the groups of the documents. -/
theorem groupedBy_stable (missingKey : Option String) :
    GroupedBy docs field missingKey (Sorting.stable (fun a b => b.count < a.count)
      ((termCounts docs field).filterMap (listed? missingKey))) := by
  have pure : ∀ doc ∈ docs, holdsTexts doc field = true := fun doc h => (texts doc h).1
  have distinct := Store.nodup_termCounts pure
  refine ⟨?_, nodup_keys_stable pure missingKey, ?_⟩
  · intro b
    rw [Sorting.mem_stable, mem_filterMap_listed?_iff (Store.termCounts_pairwise pure).1]
    refine and_congr_right fun _ => ?_
    have held : (∃ doc ∈ docs, b.key ∈ textsAt doc field) ↔
        Json.str b.key ∈ (termCounts docs field).map Prod.fst := by
      rw [Store.mem_termCounts (Store.isTermKey_str b.key)]
      simp only [Store.str_mem_termKeys]
    rw [held, ← Store.countUnder_str texts]
    constructor
    · rintro ⟨n, hcount, same⟩
      refine ⟨List.mem_map_of_mem hcount, ?_⟩
      rw [same, Store.countUnder_of_mem (Store.isTermKey_str b.key) distinct hcount]
    · rintro ⟨listed, same⟩
      obtain ⟨⟨k, n⟩, hcount, rfl⟩ := List.mem_map.mp listed
      refine ⟨n, hcount, ?_⟩
      rw [same, Store.countUnder_of_mem (Store.isTermKey_str b.key) distinct hcount]
  · have decides (a b : TermBucket) : decide (b.count < a.count) = true ↔ -a.count < -b.count := by
      rw [decide_eq_true_iff, Int.neg_lt_neg_iff]
    refine (Sorting.stable_pairwise_of_pairwise decides (pairwise_filterMap_listed? pure missingKey)).imp ?_
    rintro a b (less | ⟨same, less⟩)
    · left
      omega
    · right
      exact ⟨by omega, less⟩

/-- The answer of a listing that has read all counts: the groups, and then the bucket of the alias. -/
theorem sorted_add_termCounts (small : Json.sizeItems docs < Number.signedBound) (missingKey : Option String) :
    (({} : TermTally).add missingKey (termCounts docs field)).sorted missingKey =
      Sorting.stable (fun a b => b.count < a.count)
        ((termCounts docs field).filterMap (listed? missingKey)) ++ lostBuckets docs field missingKey := by
  have pure : ∀ doc ∈ docs, holdsTexts doc field = true := fun doc h => (texts doc h).1
  have terms := (Store.termCounts_pairwise pure).1
  unfold sorted add
  rw [List.nil_append]
  cases missingKey with
  | none =>
    have unlost : ((termCounts docs field).filter fun count => ofMissing none count.1) = [] := by
      refine List.filter_eq_nil_iff.mpr fun count hcount => ?_
      rcases terms count hcount with named | ⟨s, named⟩
      · rw [named]
        exact Bool.false_ne_true
      · rw [named]
        exact Bool.false_ne_true
    rw [unlost, lostBuckets, List.append_nil]
    rfl
  | some missingKey =>
    have sum := sum_ofMissing terms missingKey
    rw [Store.countUnder_null_add_str texts] at sum
    have bound : lostCount docs field missingKey ≤ docs.length := List.countP_le_length
    have sized := Json.length_le_sizeItems docs
    have signed : Number.isSigned (lostCount docs field missingKey) = true := by
      rw [Number.isSigned_iff]
      omega
    rw [lostBuckets, ← sum]
    rw [← sum] at signed
    generalize hlost : ((termCounts docs field).filter fun count => ofMissing (some missingKey) count.1) = lost
      at signed
    cases lost with
    | nil => simp
    | cons count lost =>
      -- what is counted, is counted for some document
      have listed : count ∈ termCounts docs field :=
        (List.mem_filter.mp (hlost ▸ List.mem_cons_self)).1
      have counted := Store.pos_of_mem_termCounts listed
      have some : ((count :: lost).map Prod.snd).sum ≠ 0 := by
        rw [List.map_cons, List.sum_cons]
        omega
      rw [if_neg some]
      simp only [List.isEmpty_cons, Bool.false_eq_true, if_false, Option.getD_none, Int.zero_add]
      rw [Number.wrapSigned_of_isSigned signed]

end TermTally

/-! ### One search for each page -/

namespace TermsRequest

/-- Behind what has been read, a search is asked for each page that the rest fills, and one more. -/
theorem Plan.length_exchanges_pages {plan : Plan R} {st : Store R}
    (texts : ∀ doc ∈ st.selected plan.index plan.query, holdsTexts doc plan.field.name = true)
    (signed : ∀ count ∈ plan.counts st, Number.isSigned count.2 = true) (full : 0 < plan.pageSize)
    {patience : Nat} {read rest : List (Json R × Nat)} (whole : plan.counts st = read ++ rest)
    (enough : rest.length / plan.pageSize < patience) (tally : TermTally) :
    ((plan.pages patience (cursorBehind read) tally).exchanges Backend.serve (.store st false)).length =
      rest.length / plan.pageSize + 1 := by
  induction patience generalizing read rest tally with
  | zero => exact absurd enough (Nat.not_lt_zero _)
  | succ patience ih =>
    have terms := (Store.termCounts_pairwise texts).1
    rw [← counts, whole] at terms
    have within : ∀ count ∈ rest.take plan.pageSize, count ∈ read ++ rest :=
      fun count h => List.mem_append_right _ (List.mem_of_mem_take h)
    have counting := TermTally.countPage_eq_add (fun count h => terms count (within count h))
      (fun count h => signed count (whole ▸ within count h)) plan.missingKey tally
    generalize tally.add plan.missingKey (rest.take plan.pageSize) = counted at counting
    rw [pages, Dialogue.exchanges_searchReading_bind (a := (counted,
      if (rest.take plan.pageSize).length < plan.pageSize then none else cursorBehind (rest.take plan.pageSize)))]
    · rw [List.length_cons]
      congr 1
      by_cases last : (rest.take plan.pageSize).length < plan.pageSize
      · -- a page that is not full is the last one
        rw [if_pos last]
        rw [List.length_take] at last
        exact (Nat.div_eq_of_lt (by omega)).symm
      · rw [if_neg last]
        have filled : rest.take plan.pageSize ≠ [] := List.ne_nil_of_length_pos (by omega)
        obtain ⟨next, cursor, further⟩ := Store.exists_cursorBehind filled read
        have whole : plan.counts st = read ++ rest.take plan.pageSize ++ rest.drop plan.pageSize := by
          rw [List.append_assoc, List.take_append_drop, whole]
        rw [List.length_take] at last
        have less := Nat.div_eq_sub_div full (show plan.pageSize ≤ rest.length by omega)
        have following := ih whole (by rw [List.length_drop]; omega) counted
        rw [further, List.length_drop, ← less] at following
        rw [cursor]
        exact following
    · rw [readPage_answer, termPage_counts texts whole]
      simp only [bind, Except.bind, List.length_map, counting, pure, Except.pure]

/-- A listing of texts asks for a search for each page that the counts fill, and one more. -/
theorem length_searches_run {ctx : Context} {index : String} {req : TermsRequest R} {st : Store R} {plan : Plan R}
    (planned : req.plan ctx index = .ok plan)
    (texts : ∀ doc ∈ st.selected index plan.query, holdsTexts doc req.field = true)
    (full : 0 < ctx.config.aggregation.pageSize) (small : st.size < Number.signedBound)
    (enough : (termCounts (st.selected index plan.query) req.field).length / ctx.config.aggregation.pageSize <
      ctx.patience) :
    ((Backend.store st false).run (req.run ctx index)).searches.length =
      (termCounts (st.selected index plan.query) req.field).length / ctx.config.aggregation.pageSize + 1 := by
  have pages := pages_onStore_eq_add planned texts full small enough
  have ends := Dialogue.exchanges_bind (f := fun tally => .done (.value (tally.sorted req.missingKey)))
    (Dialogue.yields_store_iff.mpr ⟨pages, rfl⟩)
  rw [Backend.run, ← Dialogue.map_fst_exchanges, List.length_map, run, Dialogue.exchanges_bounded, enumerate,
    planned, Dialogue.ofExcept_ok, Dialogue.value_bind, ends, List.length_append]
  have counts := counts_of_plan planned st
  obtain ⟨s, f, query, -, found, -, rfl⟩ := plan_eq_ok_iff.mp planned
  have holds : ∀ doc ∈ st.selected index query, holdsTexts doc f.name = true := by
    rw [Schema.name_of_field? found]
    exact texts
  rw [← counts] at enough ⊢
  exact Plan.length_exchanges_pages holds (Plan.isSigned_counts _ small) full (List.nil_append _).symm enough {}

end TermsRequest

/-! ### The theorem -/

/-- The context with another page size. -/
def Context.paged (ctx : Context) (size : Nat) : Context :=
  { ctx with config := { ctx.config with aggregation := { ctx.config.aggregation with pageSize := size } } }

/-- Whatever the page size, the listing of a field that holds distinct texts is the groups of the documents that
pass the filter, and then the bucket of the alias; it takes a search for each page the distinct keys fill, and one
more. The patience has to allow for the pages that are filled, and the counts have to fit the words of an answer. -/
theorem listing_groups_documents {ctx : Context} {index : String} {req : AggregationRequest R} {s : Schema}
    {f : Field} (known : ctx.schema index = .ok s) (found : s.field? req.field = some f)
    {query : Option (Query R)}
    (compiled : ctx.compileFilter index req.filter (some req.field) req.filterSelf req.authFilter = .ok query)
    {st : Store R}
    (texts : ∀ doc ∈ st.selected index query, holdsTexts doc req.field = true ∧ (textsAt doc req.field).Nodup)
    (small : st.size < Number.signedBound) :
    ∃ groups, GroupedBy (st.selected index query) req.field ctx.missingAlias groups ∧ ∀ size, 0 < size →
      distinctKeys (st.selected index query) req.field / size < ctx.patience →
      (req.terms (ctx.paged size) index).onStore st =
        .value (groups ++ lostBuckets (st.selected index query) req.field ctx.missingAlias) ∧
      ((Backend.store st false).run (req.terms (ctx.paged size) index)).searches.length =
        distinctKeys (st.selected index query) req.field / size + 1 := by
  have pure : ∀ doc ∈ st.selected index query, holdsTexts doc req.field = true := fun doc h => (texts doc h).1
  refine ⟨_, TermTally.groupedBy_stable texts ctx.missingAlias, ?_⟩
  intro size full enough
  have planned : TermsRequest.plan (ctx.paged size) index
      ⟨req.field, req.filter, some req.field, req.filterSelf, req.authFilter, ctx.missingAlias⟩ =
      .ok ⟨index, f, query, size, ctx.missingAlias⟩ :=
    TermsRequest.plan_eq_ok_iff.mpr ⟨s, f, query, known, found, compiled, rfl⟩
  rw [← Store.length_termCounts pure] at enough ⊢
  have answered := TermsRequest.run_onStore_eq planned pure full small enough
  have held := st.sizeItems_selected_le index query
  rw [TermTally.sorted_add_termCounts texts (by omega)] at answered
  exact ⟨answered, TermsRequest.length_searches_run planned pure full small enough⟩

/-- Two keys, null and a path, are listed in three pages of one key, and in two pages where the first one holds them
both. -/
theorem paths_grouped_page_by_page :
    (Sample.pathListing.terms ((Sample.context .regular).paged 1) "subject").onStore Sample.family =
      .value [⟨"/a", 2⟩, ⟨"no data", 1⟩] ∧
    (Sample.pathListing.terms ((Sample.context .regular).paged 2) "subject").onStore Sample.family =
      .value [⟨"/a", 2⟩, ⟨"no data", 1⟩] ∧
    ((Backend.store Sample.family false).run
      (Sample.pathListing.terms ((Sample.context .regular).paged 1) "subject")).searches.length = 3 ∧
    ((Backend.store Sample.family false).run
      (Sample.pathListing.terms ((Sample.context .regular).paged 2) "subject")).searches.length = 2 := by
  have stored : ∀ doc ∈ Sample.family.documents "subject",
      holdsTexts doc "auth_resource_path" = true ∧ (textsAt doc "auth_resource_path").Nodup := by
    decide +kernel
  have keys : distinctKeys (Sample.family.selected "subject" (some (.range "age" .gte (.int 10))))
      Sample.pathListing.field = 2 := by
    decide +kernel
  have listed : (Sample.pathListing.terms ((Sample.context .regular).paged 1) "subject").onStore Sample.family =
      .value [⟨"/a", 2⟩, ⟨"no data", 1⟩] := by
    with_unfolding_all rfl
  obtain ⟨groups, -, paged⟩ := @listing_groups_documents Rat _ (Sample.context .regular) "subject"
    Sample.pathListing _ _ rfl rfl (some (.range "age" .gte (.int 10))) rfl Sample.family
    (fun doc h => stored doc (List.mem_of_mem_filter h)) (by decide +kernel)
  rw [keys] at paged
  obtain ⟨one, three⟩ := paged 1 (by decide) (by decide)
  obtain ⟨two, twice⟩ := paged 2 (by decide) (by decide)
  exact ⟨listed, two.trans (one.symm.trans listed), three, twice⟩

end TieredSearch
