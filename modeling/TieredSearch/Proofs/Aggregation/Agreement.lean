import TieredSearch.Proofs.Aggregation.Tally
import TieredSearch.Proofs.Filter.Clauses
import TieredSearch.Proofs.Filter.Rooted
import TieredSearch.Proofs.Scope.Resolution

/-!
# Buckets and totals

The key of a bucket is given a meaning twice: a listing counts documents under it, and a filter that compares
the field with it selects documents. A listing takes the alias of missing values for the documents without a
value and for those that hold the alias as a text; the filter takes it for the documents without a value alone.
So a bucket and the total of the filter narrowed to its key agree, unless the key is the alias and some document
holds it (`bucket_agrees_iff`).

Documents may hold no text, one, or several distinct ones; the filter and the restriction may be of any shape.
-/

namespace TieredSearch

open Document (valuesAt textsAt holdsTexts)
open Store (IsTermKey termKeys termCounts countUnder)

variable {R : Type} [Scalar R]

/-! ### A filter narrowed to a key -/

namespace Filter

variable {t : Target} {name : String} {f : Field}

/-- The test that some value of a text field outside nested objects is a text. -/
theorem AtRoot.equals (found : t.schema.field? name = some f) (text : f.kind = .text) (root : f.nestedPath = [])
    (value : String) :
    AtRoot t (equals name value : Filter R) ((FieldTest.equals t.missingAlias name value).within []) where
  compiled := by
    simp [Filter.equals, compileWithin, Target.field_eq_ok found, compileCompare, text, textOperand, root,
      unopened, Schema.name_of_field? found, FieldTest.within_equals, bind, Except.bind, pure, Except.pure]
  scopes := by simp [Filter.equals, nestedScopes, Schema.nestedPath, found, root]

/-- A restriction outside nested objects narrows what a filter admits, also where another restriction is beside
the two. -/
theorem compile_narrowedBy {restriction : Filter R} {clause : Query R} (h : AtRoot t restriction clause)
    (own : Option (Filter R)) (excludeField excludeField' : Option String) (extra : Option (Filter R)) :
    Agree (fun before after => ∀ doc, Query.admits after doc = (Query.admits before doc && clause.selects doc))
      (compile t own excludeField true extra)
      (compile t (some (narrowedBy own restriction)) excludeField' true extra) := by
  have beside : some (narrowedBy own restriction) = both own (some restriction) := by cases own <;> rfl
  rw [compile_eq, compile_eq, beside]
  refine (compileOptional_both h.compiled h.scopes own).bind fun before after narrowed => ?_
  refine (Agree.refl (fun _ => rfl) (compileOptional t none extra)).bind fun scope _ same => ?_
  subst same
  refine .ok fun doc => ?_
  rw [admits_joined, admits_joined, narrowed, Bool.and_right_comm]

/-- The key that a listing counts the documents under that a text selects. -/
def keyOf (missingAlias : Option String) (text : String) : Json R :=
  if missingAlias = some text then .null else .str text

omit [Scalar R] in
theorem isTermKey_keyOf (missingAlias : Option String) (text : String) :
    IsTermKey (keyOf missingAlias text : Json R) := by
  unfold keyOf
  split
  · exact Store.isTermKey_null
  · exact Store.isTermKey_str text

/-- A text selects the documents with its key. -/
theorem hasText_eq_any_termKeys (missingAlias : Option String) {doc : Json R} {field : String}
    (texts : holdsTexts doc field = true) (text : String) :
    hasText missingAlias doc field text = (termKeys field doc).any (·.same (keyOf missingAlias text)) := by
  rw [Bool.eq_iff_iff, Store.any_same_iff (isTermKey_keyOf missingAlias text), hasText, keyOf]
  split
  · rw [Store.null_mem_termKeys, List.isEmpty_iff]
  · rw [Store.str_mem_termKeys, Document.valuesAt_eq_map_textsAt texts, List.any_map, List.any_eq_true]
    simp

end Filter

/-! ### Totals of a store -/

omit [Scalar R] in
/-- The total is read off an answer which has it as a member. -/
theorem readTotal_eq_ok {answer hits total value : Json R} (found : answer.get? "hits" = some hits)
    (member : hits.get? "total" = some total) (inner : total.get? "value" = some value) {n : Int}
    (number : value.int? = some n) : readTotal answer = .ok n := by
  rw [readTotal, found, Option.bind_some, member]
  simp only [inner, Option.getD_some, number]

/-- A total counts the selected documents of a store that is small enough for numbers of 64 bits. -/
theorem totalCount_onStore {ctx : Context} {index : String} {st : Store R} {filter scope : Option (Filter R)}
    {query : Option (Query R)} (compiled : ctx.compileFilter index filter none true scope = .ok query)
    (small : st.size < Number.signedBound) :
    (totalCount ctx index filter scope).onStore st = .value (st.selected index query).length := by
  have signed : Number.isSigned (st.selected index query).length = true := by
    have held := st.sizeItems_selected_le index query
    have counted := Json.length_le_sizeItems (st.selected index query)
    rw [Number.isSigned_iff]
    omega
  have number : (Json.int (st.selected index query).length : Json R).int? =
      some ((st.selected index query).length : Int) := by rw [Json.int?, if_pos signed]
  rw [totalCount, compiled, Dialogue.ofExcept_ok, Dialogue.value_bind, Dialogue.onStore_searchReading,
    readTotal_eq_ok rfl rfl rfl number, Outcome.ofExcept_ok]

namespace Store

/-- All keys together are counted no more often than the documents hold values. -/
theorem sum_termCounts_le (docs : List (Json R)) (field : String) :
    ((termCounts docs field).map Prod.snd).sum ≤ Json.sizeItems docs := by
  have sorted : ((termCounts docs field).map Prod.snd).sum =
      (((docs.flatMap (termKeys field)).foldl countKey []).map Prod.snd).sum :=
    ((Sorting.stable_perm _).map _).sum_eq
  have held := length_flatMap_termKeys_le field docs
  rw [sorted, sum_foldl_countKey]
  simpa using held

/-- A text is counted for no document exactly when no document holds it. -/
theorem countUnder_str_eq_zero_iff {docs : List (Json R)} {field : String}
    (texts : ∀ doc ∈ docs, holdsTexts doc field = true) (distinct : ∀ doc ∈ docs, (termKeys field doc).Nodup)
    (s : String) :
    countUnder (termCounts docs field) (.str s) = 0 ↔ ¬∃ doc ∈ docs, s ∈ textsAt doc field := by
  rw [countUnder_termCounts texts distinct (isTermKey_str s), List.countP_eq_zero]
  simp only [any_same_iff (isTermKey_str s), str_mem_termKeys, not_exists, not_and]

end Store

/-! ### Agreement -/

section Agreement

variable {ctx : Context} {index : String} {s : Schema} {f : Field} {st : Store R} {name : String}
  (known : ctx.schema index = .ok s) (found : s.field? name = some f)
  (texts : ∀ doc ∈ st.documents index, holdsTexts doc name = true ∧ (textsAt doc name).Nodup)
  (small : st.size < Number.signedBound)

include known found texts small

/-- Narrowed to a key, a filter selects the documents that are counted under it. -/
theorem totalCount_narrowedBy_onStore (text : f.kind = .text) (root : f.nestedPath = [])
    {own extra : Option (Filter R)} {excludeField : Option String} {query : Option (Query R)}
    (compiled : ctx.compileFilter index own excludeField true extra = .ok query) (key : String) :
    (totalCount ctx index (some (.narrowedBy own (.equals name key))) extra).onStore st =
      .value (countUnder (termCounts (st.selected index query) name) (Filter.keyOf ctx.missingAlias key)) := by
  have atRoot := Filter.AtRoot.equals (R := R)
    (t := ⟨s, ctx.missingAlias, ctx.config.aggregation.analyzedSuffix⟩) found text root key
  have agree := Filter.compile_narrowedBy atRoot own excludeField none extra
  rw [Context.compileFilter_eq known] at compiled
  rw [compiled] at agree
  obtain ⟨narrow, compiledNarrow, narrowed⟩ := agree.symm.exists_left
  rw [← Context.compileFilter_eq known] at compiledNarrow
  have stored : ∀ doc ∈ st.selected index query, doc ∈ st.documents index := fun doc h => List.mem_of_mem_filter h
  have selected : st.selected index narrow = (st.selected index query).filter fun doc =>
      Filter.hasText ctx.missingAlias doc name key := by
    rw [Store.selected, Store.selected, List.filter_filter]
    refine List.filter_congr fun doc _ => ?_
    rw [narrowed, Filter.FieldTest.selects_equals, Bool.and_comm]
  rw [totalCount_onStore compiledNarrow small, selected, ← List.countP_eq_length_filter,
    Store.countUnder_termCounts (fun doc h => (texts doc (stored doc h)).1)
      (fun doc h => Store.nodup_termKeys (texts doc (stored doc h)).1 (texts doc (stored doc h)).2)
      (Filter.isTermKey_keyOf _ _)]
  refine congrArg (fun n : Nat => Outcome.value (n : Int)) (List.countP_congr fun doc h => ?_)
  rw [Filter.hasText_eq_any_termKeys _ (texts doc (stored doc h)).1]

/-- A bucket counts the documents of its key, and the bucket of the alias also those without a value. -/
theorem count_of_mem_run {req : TermsRequest R} (field : req.field = name) {query : Option (Query R)}
    (compiled : ctx.compileFilter index req.filter req.excludeField req.filterSelf req.extra = .ok query)
    {buckets : List TermBucket} (listed : (req.run ctx index).onStore st = .value buckets) {b : TermBucket}
    (member : b ∈ buckets) :
    b.count = if req.missingKey = some b.key then
        ((countUnder (termCounts (st.selected index query) name) .null +
          countUnder (termCounts (st.selected index query) name) (.str b.key) : Nat) : Int)
      else (countUnder (termCounts (st.selected index query) name) (.str b.key) : Nat) := by
  subst field
  have planned : req.plan ctx index =
      .ok ⟨index, f, query, ctx.config.aggregation.pageSize, req.missingKey⟩ :=
    TermsRequest.plan_eq_ok_iff.mpr ⟨s, f, query, known, found, compiled, rfl⟩
  have full : 0 < ctx.config.aggregation.pageSize := by
    refine Nat.pos_of_ne_zero fun empty => ?_
    rw [TermsRequest.buckets_eq_nil_of_run_onStore planned empty listed] at member
    cases member
  have selected : ∀ doc ∈ st.selected index query, holdsTexts doc req.field = true :=
    fun doc h => (texts doc (List.mem_of_mem_filter h)).1
  obtain ⟨terms, -⟩ := Store.termCounts_pairwise selected
  rw [TermsRequest.buckets_of_run_onStore planned selected full small listed] at member
  rw [TermTally.count_of_mem_sorted terms (Store.nodup_termCounts selected) member]
  split
  next =>
    refine Number.wrapSigned_of_isSigned (Number.isSigned_iff.mpr ?_)
    have whole := Store.sum_termCounts_le (st.selected index query) req.field
    have part := (List.filter_sublist (p := fun count : Json R × Nat => TermTally.ofMissing (some b.key) count.1)
      (l := termCounts (st.selected index query) req.field)).map Prod.snd |>.sum_le_sum fun _ _ => Nat.zero_le _
    rw [TermTally.sum_ofMissing terms] at part
    have held := st.sizeItems_selected_le index query
    omega
  next => rfl

end Agreement

/-- Every bucket that a listing answers, whatever the filter, the restriction, the alias and the pages: the total
of the filter narrowed to the bucket's key is the bucket's count, unless the key is the alias and some document
that passes the filter holds it. -/
theorem bucket_agrees_iff {ctx : Context} {index : String} {req : AggregationRequest R} {s : Schema} {f : Field}
    (known : ctx.schema index = .ok s) (found : s.field? req.field = some f) (text : f.kind = .text)
    (root : f.nestedPath = []) (self : req.filterSelf = true) {st : Store R}
    (texts : ∀ doc ∈ st.documents index,
      holdsTexts doc req.field = true ∧ (textsAt doc req.field).Nodup)
    (small : st.size < Number.signedBound) {buckets : List TermBucket}
    (listed : (req.terms ctx index).onStore st = .value buckets) {b : TermBucket} (member : b ∈ buckets) :
    ∃ query n, ctx.compileFilter index req.filter none true req.authFilter = .ok query ∧
      (totalCount ctx index (some (.narrowedBy req.filter (.equals req.field b.key))) req.authFilter).onStore st =
        .value n ∧
      (n = b.count ↔ ¬(ctx.missingAlias = some b.key ∧
        ∃ doc ∈ st.selected index query, b.key ∈ textsAt doc req.field)) := by
  obtain ⟨plan, planned⟩ := TermsRequest.exists_plan_of_run_onStore listed
  obtain ⟨_, _, query, -, -, compiled, -⟩ := TermsRequest.plan_eq_ok_iff.mp planned
  rw [self] at compiled
  dsimp only at compiled
  have plain : ctx.compileFilter index req.filter none true req.authFilter = .ok query := by
    rw [← compiled, Context.compileFilter_eq known, Context.compileFilter_eq known]
    rfl
  have total := totalCount_narrowedBy_onStore known found texts small text root compiled b.key
  have count := count_of_mem_run known found texts small rfl (self ▸ compiled) listed member
  dsimp only at count
  have stored : ∀ doc ∈ st.selected index query,
      holdsTexts doc req.field = true ∧ (textsAt doc req.field).Nodup :=
    fun doc h => texts doc (List.mem_of_mem_filter h)
  have held := Store.countUnder_str_eq_zero_iff (fun doc h => (stored doc h).1)
    (fun doc h => Store.nodup_termKeys (stored doc h).1 (stored doc h).2) b.key
  refine ⟨query, _, plain, total, ?_⟩
  rw [count, not_and, ← held, Filter.keyOf]
  split
  next named =>
    rw [forall_prop_of_true named]
    omega
  next other => exact iff_of_true rfl fun named => absurd named other

/-- The listing of the paths of subjects of ten years and older. -/
def Sample.pathListing : AggregationRequest Rat where
  field := "auth_resource_path"
  filter := some (.compare (.range .gte) "age" (.int 10))
  filterSelf := true
  rangeStart := none
  rangeEnd := none
  rangeStep := none
  binCount := none
  authFilter := none

/-- Two subjects with one path, one without a path, and a child. -/
def Sample.family : Store Rat :=
  store [subject (some "/a") 10, subject none 20, subject (some "/a") 30, subject (some "/b") 5]

/-- The bucket of a path and the bucket of the alias agree with the totals where no path is the alias. -/
theorem paths_agree_with_totals :
    (Sample.pathListing.terms (Sample.context .regular) "subject").onStore Sample.family =
      .value [⟨"/a", 2⟩, ⟨"no data", 1⟩] ∧
    ∀ b ∈ [(⟨"/a", 2⟩ : TermBucket), ⟨"no data", 1⟩],
      (totalCount (Sample.context .regular) "subject"
        (some (.narrowedBy Sample.pathListing.filter (.equals "auth_resource_path" b.key))) none).onStore
          Sample.family = .value b.count := by
  have listed : (Sample.pathListing.terms (Sample.context .regular) "subject").onStore Sample.family =
      .value [⟨"/a", 2⟩, ⟨"no data", 1⟩] := by
    with_unfolding_all rfl
  have apart : ∀ doc ∈ Sample.family.documents "subject", "no data" ∉ textsAt doc "auth_resource_path" := by
    decide +kernel
  refine ⟨listed, fun b member => ?_⟩
  obtain ⟨query, n, -, total, agrees⟩ := bucket_agrees_iff rfl rfl rfl rfl rfl (by decide +kernel)
    (by decide +kernel) listed member
  have same : n = b.count := by
    refine agrees.mpr ?_
    rintro ⟨named, doc, stored, held⟩
    rw [← Option.some.inj (named : some "no data" = some b.key)] at held
    exact apart doc (List.mem_of_mem_filter stored) held
  rw [← same]
  exact total

/-- A stored path that is the alias is counted in the bucket of the alias, and the filter does not find it. -/
theorem path_named_like_alias_not_found :
    (Sample.pathListing.terms (Sample.context .regular) "subject").onStore
        (Sample.store [Sample.subject (some "no data") 10]) = .value [⟨"no data", 1⟩] ∧
    (totalCount (Sample.context .regular) "subject"
      (some (.narrowedBy Sample.pathListing.filter (.equals "auth_resource_path" "no data"))) none).onStore
        (Sample.store [Sample.subject (some "no data") 10]) = .value 0 :=
  ⟨by with_unfolding_all rfl, by with_unfolding_all rfl⟩

end TieredSearch
