import Mathlib.Algebra.Ring.Int.Defs
import Mathlib.Data.List.Forall2
import TieredSearch.Proofs.Aggregation.Listing
import TieredSearch.Proofs.Search.Exchange
import TieredSearch.Proofs.Sorting

/-!
# Reading pages behind a cursor

An enumeration follows the cursors of whatever backend it is given, also of one that repeats itself, names a
wrong cursor or breaks off. Nothing is assumed of the replies here.

* `Plans`: what the searches have in common, which is told by the request.
* `Plan.Follows`: the protocol. The first search has no cursor, each further one exactly the cursor of the page
  before; otherwise the searches are the same (`Plan.Seeks`). A page that is not full or names no cursor is the
  last one, and a reply that is no page ends the enumeration.
* `Lists`: what an answer lists of the entries of all pages. The terms are in descending order of their counts,
  those of equal counts as they were read; then come the documents without a value, if there are any.
* Main statement (`run_follows`): every run follows the protocol. Read to the last page, the answer lists the
  entries of all pages; after a reply that is no page there is an error.

One step reads one page (`readPage_bind_eq_ok_iff`), and what the pages add up to is a fold over their entries
(`TermTally.enter`).
-/

namespace TieredSearch

variable {R : Type}

/-- Under a time limit, an operation without a reply ends with the fault of the limit. -/
theorem Outcome.conclusion?_bounded_stuck {α : Type} (seconds : Nat) (fault : BackendFault) :
    ((Outcome.stuck none : Outcome α).bounded seconds fault).conclusion? =
      some (.error (.backendUnavailable fault)) := by
  rw [bounded]
  by_cases atOnce : seconds = 0
  · rw [if_pos atOnce]
    rfl
  · rw [if_neg atOnce]
    rfl

/-! ### Entries -/

/-- An entry of a page. -/
structure TermEntry where
  /-- The term; none where the documents have no value. -/
  term : Option String
  /-- The number of documents. -/
  count : Int

namespace TermEntry

/-- The bucket an entry is listed as. Without a term, or under the missing key, it is not. -/
def listed? (missingKey : Option String) (entry : TermEntry) : Option TermBucket :=
  match entry.term with
  | none => none
  | some term => if missingKey = some term then none else some ⟨term, entry.count⟩

/-- The documents of an entry that are counted as being without a value, when there is a missing key: those
without a term and those under that key. -/
def missing? (missingKey : Option String) (entry : TermEntry) : Option Int :=
  match missingKey, entry.term with
  | none, _ => none
  | some _, none => some entry.count
  | some key, some term => if key = term then some entry.count else none

/-- `Names bucket term`: what the key of a bucket says of the documents it counts. -/
inductive Names [Scalar R] (bucket : Json R) : Option String → Prop where
  /-- Without a key they have no value. -/
  | absent (keyless : (bucket.get? "key").bind (·.get? termSourceName) = none) : Names bucket none
  /-- Nor do they under null. -/
  | null (found : (bucket.get? "key").bind (·.get? termSourceName) = some .null) : Names bucket none
  /-- A text is the term they hold. -/
  | text {term : String} (found : (bucket.get? "key").bind (·.get? termSourceName) = some (.str term)) :
      Names bucket (some term)
  /-- Any other key is written out. -/
  | other {key : Json R} (found : (bucket.get? "key").bind (·.get? termSourceName) = some key)
      (present : key.isNull = false) (notText : ∀ term, key ≠ .str term) : Names bucket (some key.compact)

/-- The bucket of an answer is the entry. -/
structure IsReadFrom [Scalar R] (bucket : Json R) (entry : TermEntry) : Prop where
  /-- The term is the one that its key names, if any. -/
  term : Names bucket entry.term
  /-- The number of documents is a whole number of 64 bits. -/
  count : (bucket.get? "doc_count").bind Json.int? = some entry.count

end TermEntry

/-! ### What an answer lists -/

/-- `IsDescending sorted buckets`: the buckets sorted by descending count, equal counts as they were. -/
structure TermBucket.IsDescending (sorted buckets : List TermBucket) : Prop where
  /-- No bucket counts less than the next one. -/
  descending : sorted.Pairwise fun a b => b.count ≤ a.count
  /-- The buckets of each count are those that were given, in the order they were given in. -/
  stable : ∀ n, sorted.filter (·.count = n) = buckets.filter (·.count = n)

namespace TermsRequest

/-- The bucket at the end of an answer. -/
inductive IsLast (missingKey : Option String) (entries : List TermEntry) : List TermBucket → Prop where
  /-- There is none where no document is counted as being without a value. -/
  | absent (none : entries.filterMap (·.missing? missingKey) = []) : IsLast missingKey entries []
  /-- Under the missing key stands the number of all documents without a value, as far as it fits 64 bits. -/
  | missing {key : String} {n : Int} (given : missingKey = some key)
      (some : entries.filterMap (·.missing? missingKey) ≠ [])
      (sum : Number.isSigned (entries.filterMap (·.missing? missingKey)).sum = true →
        n = (entries.filterMap (·.missing? missingKey)).sum) : IsLast missingKey entries [⟨key, n⟩]

/-- The answer lists the entries. -/
def Lists (missingKey : Option String) (entries : List TermEntry) (buckets : List TermBucket) : Prop :=
  ∃ sorted last, buckets = sorted ++ last ∧
    TermBucket.IsDescending sorted (entries.filterMap (·.listed? missingKey)) ∧ IsLast missingKey entries last

end TermsRequest

/-! ### Entries in the tally -/

namespace TermTally

/-- The tally with one more entry. -/
def enter (missingKey : Option String) (tally : TermTally) (entry : TermEntry) : TermTally where
  buckets := tally.buckets ++ (entry.listed? missingKey).toList
  missing :=
    match entry.missing? missingKey with
    | some n => some (Number.wrapSigned (tally.missing.getD 0 + n))
    | none => tally.missing

theorem buckets_foldl_enter (missingKey : Option String) (entries : List TermEntry) (tally : TermTally) :
    (entries.foldl (enter missingKey) tally).buckets =
      tally.buckets ++ entries.filterMap (·.listed? missingKey) := by
  induction entries generalizing tally with
  | nil => simp
  | cons entry entries ih =>
    rw [List.foldl_cons, ih, enter, List.append_assoc]
    cases h : entry.listed? missingKey <;> simp [h]

/-- Counts of documents without a value add up, in whichever pages they stand. -/
theorem missing_foldl_enter (missingKey : Option String) (entries : List TermEntry) (tally : TermTally) :
    (entries.foldl (enter missingKey) tally).missing =
      if entries.filterMap (·.missing? missingKey) = [] then tally.missing
      else some (Number.wrapSigned
        (tally.missing.getD 0 + (entries.filterMap (·.missing? missingKey)).sum)) := by
  induction entries generalizing tally with
  | nil => simp
  | cons entry entries ih =>
    rw [List.foldl_cons, ih, enter]
    cases h : entry.missing? missingKey with
    | none => simp [h]
    | some n =>
      by_cases none : entries.filterMap (·.missing? missingKey) = []
      · simp [h, none]
      · simp [h, none, wrapSigned_add, add_assoc]

/-- The tally of entries answers with what they list. -/
theorem lists_sorted (missingKey : Option String) (entries : List TermEntry) :
    TermsRequest.Lists missingKey entries
      ((entries.foldl (enter missingKey) {}).sorted missingKey) := by
  have listed : TermBucket.IsDescending
      (Sorting.stable (fun a b => b.count < a.count) (entries.foldl (enter missingKey) {}).buckets)
      (entries.filterMap (·.listed? missingKey)) := by
    rw [buckets_foldl_enter, List.nil_append]
    constructor
    · have respects : Sorting.Respects (fun a b : TermBucket => decide (b.count < a.count))
          (fun b => -b.count) (entries.filterMap (·.listed? missingKey)) := by
        refine ⟨fun a _ b _ h => ?_, fun a _ b _ h => ?_⟩
        · have less := of_decide_eq_true h
          omega
        · have less : b.count < a.count := by omega
          exact decide_eq_true less
      exact (Sorting.stable_pairwise respects).imp fun h => by omega
    · intro n
      refine Sorting.filter_stable fun a _ b _ ha hb => ?_
      have same : a.count = n := by simpa using ha
      have same' : b.count = n := by simpa using hb
      simp [same, same']
  unfold sorted
  dsimp only
  rw [missing_foldl_enter]
  by_cases none : entries.filterMap (·.missing? missingKey) = []
  · rw [if_pos none]
    exact ⟨_, [], (List.append_nil _).symm, listed, .absent none⟩
  · rw [if_neg none]
    cases missingKey with
    | none => exact absurd (by simp [TermEntry.missing?]) none
    | some key =>
      refine ⟨_, _, rfl, listed, .missing rfl none fun fits => ?_⟩
      rw [Option.getD_none, zero_add, Number.wrapSigned_of_isSigned fits]

variable [Scalar R]

/-- Every bucket names its term. -/
theorem names_iff {bucket : Json R} {term : Option String} :
    TermEntry.Names bucket term ↔ termOf bucket = term := by
  rw [termOf]
  constructor
  · intro named
    cases named with
    | absent keyless => rw [keyless]
    | null found => rw [found]
    | text found => rw [found]
    | @other key found present notText =>
      rw [found]
      cases key with
      | null => cases present
      | str term => exact absurd rfl (notText term)
      | _ => rfl
  · rintro rfl
    cases found : (bucket.get? "key").bind (·.get? termSourceName) with
    | none => exact .absent found
    | some key =>
      cases key with
      | null => exact .null found
      | str term => exact .text found
      | _ => exact .other found rfl nofun

/-- A bucket is counted exactly when it is an entry. -/
theorem count_eq_ok_iff {missingKey : Option String} {tally counted : TermTally} {bucket : Json R} :
    tally.count missingKey bucket = .ok counted ↔
      ∃ entry, TermEntry.IsReadFrom bucket entry ∧ counted = tally.enter missingKey entry := by
  have entered (n : Int) (has : (bucket.get? "doc_count").bind Json.int? = some n) :
      tally.count missingKey bucket = .ok (tally.enter missingKey ⟨termOf bucket, n⟩) := by
    unfold count enter
    rw [has]
    cases term : termOf bucket with
    | none => cases missingKey <;> simp [TermEntry.listed?, TermEntry.missing?]
    | some t =>
      cases missingKey with
      | none => simp [TermEntry.listed?, TermEntry.missing?]
      | some key => by_cases same : key = t <;> simp [TermEntry.listed?, TermEntry.missing?, same]
  constructor
  · intro h
    cases has : (bucket.get? "doc_count").bind Json.int? with
    | none =>
      rw [count, has] at h
      cases h
    | some n =>
      cases (entered n has).symm.trans h
      exact ⟨_, ⟨names_iff.mpr rfl, has⟩, rfl⟩
  · rintro ⟨⟨term, n⟩, ⟨named, has⟩, rfl⟩
    cases names_iff.mp named
    exact entered n has

/-- A page is counted exactly when its buckets are entries. -/
theorem countPage_eq_ok_iff {missingKey : Option String} {tally counted : TermTally} {page : List (Json R)} :
    tally.countPage missingKey page = .ok counted ↔
      ∃ entries, List.Forall₂ TermEntry.IsReadFrom page entries ∧
        counted = entries.foldl (enter missingKey) tally := by
  induction page generalizing tally with
  | nil =>
    constructor
    · intro h
      cases h
      exact ⟨[], .nil, rfl⟩
    · rintro ⟨entries, all, rfl⟩
      cases all
      rfl
  | cons bucket page ih =>
    rw [countPage, bind_eq_ok_iff]
    constructor
    · rintro ⟨next, one, rest⟩
      obtain ⟨entry, read, rfl⟩ := count_eq_ok_iff.mp one
      obtain ⟨entries, all, rfl⟩ := ih.mp rest
      exact ⟨entry :: entries, .cons read all, rfl⟩
    · rintro ⟨entries, all, rfl⟩
      cases all with
      | cons read all =>
        exact ⟨_, count_eq_ok_iff.mpr ⟨_, read, rfl⟩, ih.mpr ⟨_, all, rfl⟩⟩

end TermTally

namespace TermsRequest

variable [Scalar R]

/-! ### Pages -/

/-- The answer is a page: below the nested scopes stands the listing, all its buckets are entries, and behind
it is the cursor that it names, unless that is null. -/
def Plan.IsPage (plan : Plan R) (answer : Json R) (entries : List TermEntry) (cursor : Option (Json R)) : Prop :=
  ∃ listing buckets, Breakdown.unwrap plan.field.nestedPath termsName answer = .ok listing ∧
    (listing.get? "buckets").bind Json.items? = some buckets ∧
    List.Forall₂ TermEntry.IsReadFrom buckets entries ∧
    cursor = (listing.get? "after_key").filter (!·.isNull)

omit [Scalar R] in
theorem Plan.readPage_eq_ok_iff {plan : Plan R} {answer : Json R} {page : List (Json R)}
    {cursor : Option (Json R)} : plan.readPage answer = .ok (page, cursor) ↔
      ∃ listing, Breakdown.unwrap plan.field.nestedPath termsName answer = .ok listing ∧
        (listing.get? "buckets").bind Json.items? = some page ∧
        cursor = (listing.get? "after_key").filter (!·.isNull) := by
  rw [readPage, bind_eq_ok_iff]
  refine exists_congr fun listing => and_congr_right fun _ => ?_
  cases (listing.get? "buckets").bind Json.items? with
  | none =>
    constructor
    · intro h
      cases h
    · rintro ⟨same, -⟩
      cases same
  | some buckets =>
    constructor
    · intro h
      cases h
      exact ⟨rfl, rfl⟩
    · rintro ⟨same, rfl⟩
      cases same
      rfl

/-- A step from one search to the next: an answer is read exactly when it is a page. The tally then has its
entries, and the search goes on behind a full page at the cursor. -/
theorem Plan.readPage_bind_eq_ok_iff {plan : Plan R} {tally counted : TermTally} {answer : Json R}
    {next : Option (Json R)} :
    (do
      let (page, cursor) ← plan.readPage answer
      let tally ← tally.countPage plan.missingKey page
      return (tally, if page.length < plan.pageSize then none else cursor) : Except QueryError _) =
        .ok (counted, next) ↔
      ∃ entries cursor, plan.IsPage answer entries cursor ∧
        counted = entries.foldl (TermTally.enter plan.missingKey) tally ∧
        next = if entries.length < plan.pageSize then none else cursor := by
  rw [bind_eq_ok_iff]
  constructor
  · rintro ⟨⟨page, cursor⟩, paged, counting⟩
    obtain ⟨tally', counting, same⟩ := bind_eq_ok_iff.mp counting
    obtain ⟨listing, found, listed, behind⟩ := readPage_eq_ok_iff.mp paged
    obtain ⟨entries, all, rfl⟩ := TermTally.countPage_eq_ok_iff.mp counting
    cases same
    exact ⟨entries, cursor, ⟨listing, page, found, listed, all, behind⟩, rfl, by rw [all.length_eq]⟩
  · rintro ⟨entries, cursor, ⟨listing, page, found, listed, all, behind⟩, rfl, rfl⟩
    refine ⟨(page, cursor), readPage_eq_ok_iff.mpr ⟨listing, found, listed, behind⟩, ?_⟩
    refine bind_eq_ok_iff.mpr ⟨_, TermTally.countPage_eq_ok_iff.mpr ⟨entries, all, rfl⟩, ?_⟩
    rw [all.length_eq]
    rfl

/-! ### The protocol -/

/-- `req.Plans ctx index plan`: what the searches of a request have in common. -/
structure Plans (ctx : Context) (index : String) (req : TermsRequest R) (plan : Plan R) : Prop where
  /-- They ask the index. -/
  asked : plan.index = index
  /-- The terms are those of the field that the request names. -/
  field : ∃ s, ctx.schema index = .ok s ∧ s.field? req.field = some plan.field
  /-- The documents are those that pass the filters of the request. -/
  query : ctx.compileFilter index req.filter req.excludeField req.filterSelf req.extra = .ok plan.query
  /-- Pages are as large as the site has them. -/
  pageSize : plan.pageSize = ctx.config.aggregation.pageSize
  /-- Documents without a value are counted as the request says. -/
  missingKey : plan.missingKey = req.missingKey

/-- `plan.Seeks after search`: a search for the page behind a cursor, or for the first page. -/
structure Plan.Seeks (plan : Plan R) (after : Option (Json R)) (search : Search R) : Prop where
  /-- It asks the index of the plan. -/
  index : search.index = plan.index
  /-- It asks of the documents that pass the query of the plan. -/
  query : search.query = plan.query
  /-- It asks for a page of the terms of the field, behind the cursor and inside the nested objects around the
  field. -/
  purpose : search.purpose = .breakdown (.wrap plan.field.nestedPath termsName
    (.terms plan.field.name plan.pageSize after))

/-- How the pages of an enumeration come to an end. -/
inductive Ending where
  /-- With the last page. -/
  | complete
  /-- With a reply that is no page. -/
  | broken
  /-- By the time limit, before the last page. -/
  | unfinished

/-- `plan.Follows after exchanges entries ending`: from a cursor on, the searches and their replies follow the
cursors, the pages have the entries, and come to the ending. -/
inductive Plan.Follows (plan : Plan R) :
    Option (Json R) → List (Search R × Reply R) → List TermEntry → Ending → Prop where
  /-- A page that is not full, or behind which there is no cursor, is the last one. -/
  | last {after cursor : Option (Json R)} {search : Search R} {answer : Json R} {entries : List TermEntry}
      (seeks : plan.Seeks after search) (page : plan.IsPage answer entries cursor)
      (ends : entries.length < plan.pageSize ∨ cursor = none) :
      plan.Follows after [(search, .body answer)] entries .complete
  /-- Behind a full page the next search has the cursor of the page. -/
  | more {after : Option (Json R)} {search : Search R} {cursor answer : Json R}
      {entries further : List TermEntry} {rest : List (Search R × Reply R)} {ending : Ending}
      (seeks : plan.Seeks after search) (page : plan.IsPage answer entries (some cursor))
      (full : plan.pageSize ≤ entries.length) (behind : plan.Follows (some cursor) rest further ending) :
      plan.Follows after ((search, .body answer) :: rest) (entries ++ further) ending
  /-- A reply that is no page is the last one, too. -/
  | broken {after : Option (Json R)} {search : Search R} {reply : Reply R} (seeks : plan.Seeks after search)
      (noPage : ∀ answer entries cursor, reply = .body answer → ¬ plan.IsPage answer entries cursor) :
      plan.Follows after [(search, reply)] [] .broken
  /-- The time limit elapses before the next search. -/
  | unfinished {after : Option (Json R)} : plan.Follows after [] [] .unfinished

theorem plans_of_plan {ctx : Context} {index : String} {req : TermsRequest R} {plan : Plan R}
    (planned : req.plan ctx index = .ok plan) : req.Plans ctx index plan := by
  obtain ⟨s, f, query, known, found, compiled, rfl⟩ := plan_eq_ok_iff.mp planned
  exact ⟨rfl, ⟨s, known, found⟩, compiled, rfl, rfl⟩

omit [Scalar R] in
theorem Plan.seeks_search (plan : Plan R) (after : Option (Json R)) : plan.Seeks after (plan.search after) :=
  ⟨rfl, rfl, rfl⟩

variable {σ : Type} (serve : Search R → σ → Reply R × σ)

/-- Pages follow the protocol from every cursor and every tally on. -/
theorem Plan.follows_pages (plan : Plan R) (patience : Nat) (after : Option (Json R)) (tally : TermTally)
    (state : σ) :
    ∃ entries ending,
      plan.Follows after ((plan.pages patience after tally).exchanges serve state) entries ending ∧
      match ending with
      | .complete => ((plan.pages patience after tally).run serve state).outcome =
          .value (entries.foldl (TermTally.enter plan.missingKey) tally)
      | .broken => (∃ e, ((plan.pages patience after tally).run serve state).outcome = .failed e) ∨
          ((plan.pages patience after tally).run serve state).outcome = .stuck none
      | .unfinished => ((plan.pages patience after tally).exchanges serve state).length = patience ∧
          ((plan.pages patience after tally).run serve state).outcome = .stuck none := by
  induction patience generalizing after tally state with
  | zero => exact ⟨[], .unfinished, .unfinished, rfl, rfl⟩
  | succ patience ih =>
    have seeks := plan.seeks_search after
    rw [pages, Dialogue.searchReading, Dialogue.search, Dialogue.ask_bind, Dialogue.ask_bind, Dialogue.exchanges,
      Dialogue.run]
    cases replied : serve (plan.search after) state with
    | mk reply between =>
      cases reply with
      | failure reasons => exact ⟨[], .broken, .broken seeks fun _ _ _ h => (by cases h), .inl ⟨_, rfl⟩⟩
      | silence => exact ⟨[], .broken, .broken seeks fun _ _ _ h => (by cases h), .inr rfl⟩
      | body answer =>
        dsimp only
        rw [Dialogue.value_bind]
        cases read : (do
            let (page, cursor) ← plan.readPage answer
            let tally ← tally.countPage plan.missingKey page
            return (tally, if page.length < plan.pageSize then none else cursor) : Except QueryError _) with
        | error e =>
          refine ⟨[], .broken, .broken seeks fun answer' entries cursor same page => ?_, .inl ⟨e, rfl⟩⟩
          cases same
          cases read.symm.trans (readPage_bind_eq_ok_iff.mpr ⟨entries, cursor, page, rfl, rfl⟩)
        | ok result =>
          obtain ⟨counted, next⟩ := result
          obtain ⟨entries, cursor, page, rfl, goesOn⟩ := readPage_bind_eq_ok_iff.mp read
          rw [Dialogue.ofExcept_ok, Dialogue.value_bind]
          by_cases short : entries.length < plan.pageSize
          · rw [if_pos short] at goesOn
            subst goesOn
            exact ⟨entries, .complete, .last seeks page (.inl short), rfl⟩
          · rw [if_neg short] at goesOn
            subst goesOn
            cases next with
            | none => exact ⟨entries, .complete, .last seeks page (.inr rfl), rfl⟩
            | some next =>
              obtain ⟨further, ending, follows, ends⟩ :=
                ih (some next) (entries.foldl (TermTally.enter plan.missingKey) tally) between
              refine ⟨entries ++ further, ending, .more seeks page (Nat.le_of_not_lt short) follows, ?_⟩
              cases ending with
              | complete => rw [List.foldl_append]; exact ends
              | broken => exact ends
              | unfinished => exact ⟨congrArg (· + 1) ends.1, ends.2⟩

/-! ### Whole enumerations -/

/-- Against any backend, an enumeration follows the cursors. Unless the index lacks the field or a filter does
not compile, which is an error before any search, the searches are for the terms of the field in the documents
that pass the filters, a page of the size of the site each. Read to the last page, the answer lists the entries of
all pages; after a reply that is no page, or where the time limit elapses behind as many full pages as there is
patience for, there is an error and no bucket. -/
theorem run_follows (ctx : Context) (index : String) (req : TermsRequest R) (state : σ) :
    match req.plan ctx index with
    | .error e => (req.run ctx index).exchanges serve state = [] ∧
        ((req.run ctx index).run serve state).outcome = .failed e
    | .ok plan => req.Plans ctx index plan ∧ ∃ entries ending,
        plan.Follows none ((req.run ctx index).exchanges serve state) entries ending ∧
        match ending with
        | .complete => ∃ buckets, ((req.run ctx index).run serve state).outcome = .value buckets ∧
            Lists req.missingKey entries buckets
        | .broken => ∃ e, ((req.run ctx index).run serve state).outcome.conclusion? = some (.error e)
        | .unfinished => ((req.run ctx index).exchanges serve state).length = ctx.patience ∧
            ((req.run ctx index).run serve state).outcome.conclusion? =
              some (.error (.backendUnavailable (.enumerationTimedOut req.field))) := by
  rw [TermsRequest.run, Dialogue.exchanges_bounded, Dialogue.outcome_bounded, enumerate]
  cases planned : req.plan ctx index with
  | error e => exact ⟨rfl, rfl⟩
  | ok plan =>
    rw [Dialogue.ofExcept_ok, Dialogue.value_bind]
    have plans := plans_of_plan planned
    have record : ((plan.pages ctx.patience none {}).bind fun tally =>
        .done (.value (tally.sorted req.missingKey))).exchanges serve state = _ :=
      Dialogue.exchanges_map (plan.pages ctx.patience none {}) (TermTally.sorted req.missingKey) state
    have ended : (((plan.pages ctx.patience none {}).bind fun tally =>
        .done (.value (tally.sorted req.missingKey))).run serve state).outcome = _ :=
      Dialogue.outcome_map (TermTally.sorted req.missingKey) (plan.pages ctx.patience none {}) state
    rw [record, ended]
    obtain ⟨entries, ending, follows, ends⟩ := plan.follows_pages serve ctx.patience none {} state
    refine ⟨plans, entries, ending, follows, ?_⟩
    cases ending with
    | complete =>
      dsimp only at ends ⊢
      rw [ends, plans.missingKey]
      exact ⟨_, rfl, TermTally.lists_sorted req.missingKey entries⟩
    | broken =>
      dsimp only at ends ⊢
      rcases ends with ⟨e, failed⟩ | stuck
      · rw [failed]
        exact ⟨e, rfl⟩
      · rw [stuck]
        exact ⟨_, Outcome.conclusion?_bounded_stuck ..⟩
    | unfinished =>
      refine ⟨ends.1, ?_⟩
      rw [ends.2]
      exact Outcome.conclusion?_bounded_stuck ..

end TermsRequest

end TieredSearch
