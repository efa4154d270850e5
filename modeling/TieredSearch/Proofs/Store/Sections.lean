import TieredSearch.Number.Rational
import TieredSearch.Proofs.Aggregation.Listing
import TieredSearch.Store.Sections

/-!
# Results inside nested scopes

A request is wrapped in nested scopes from the inside out, and its result is read from the outside in. Where they
stand in the request and in the answer is said by ways of keys (`Json.at?`): `Breakdown.requestScopes depth` leads
into the scopes of a request, and `Breakdown.answerScopes depth` into those of an answer.

* `Store.exists_resultsOf_wrapRequest`: the store finds in the scopes the result that it has for the request alone.
  Each scope adds the number of documents, which hides no result of another name.
* `Breakdown.unwrap_eq_ok_iff`, `Breakdown.unwrap_eq_error_iff`: a result is read off an answer that has it below
  the scopes, and otherwise the error names the first part that is missing (`Breakdown.Lacks`).
* `Breakdown.wrapped_result_unwrapped`: so what is unwrapped is what was computed, at every depth.

A breakdown is a section of this kind, and what the store computes for it directly is what it reads off the section
(`Store.resultsOf_toMembers`).
-/

namespace TieredSearch

variable {R : Type}

/-! ### Ways into a value -/

/-- What a way of keys leads to. -/
def Json.at? : List String → Json R → Option (Json R)
  | [], v => some v
  | key :: rest, v => (v.get? key).bind (at? rest)

theorem Json.at?_append (way rest : List String) (v : Json R) :
    v.at? (way ++ rest) = (v.at? way).bind (·.at? rest) := by
  induction way generalizing v with
  | nil => rfl
  | cons key way ih =>
    rw [List.cons_append, at?, at?]
    cases v.get? key with
    | none => rfl
    | some inner => exact ih inner

/-- Only a way that begins with its key notices a member that is set. -/
theorem Json.at?_put {k key : String} (h : k ≠ key) (value : Json R) (members : List (String × Json R))
    (rest : List String) :
    (Json.obj (put key value members)).at? (k :: rest) = (Json.obj members).at? (k :: rest) := by
  rw [at?, at?, get?, get?, lookup_put_of_ne h]

/-- A natural number of 64 bits is read as it was written. -/
theorem Json.nat?_natCast {n : Nat} (small : Number.isUnsigned n = true) :
    (Json.int n : Json R).nat? = some n := by
  rw [nat?, if_pos small, Int.toNat_natCast]

namespace Breakdown

/-- The way into the nested scopes of a request. -/
def requestScopes (depth : Nat) : List String := (List.replicate depth [nestedScopeName, "aggs"]).flatten

/-- The way into the nested scopes of an answer. -/
def answerScopes (depth : Nat) : List String := "aggregations" :: List.replicate depth nestedScopeName

/-- The first part that an answer lacks on the way to the result of a name. -/
inductive Lacks (nestedPath : List String) (name : String) (answer : Json R) : Malformation → Prop where
  /-- It has no aggregations. -/
  | aggregations (absent : answer.get? "aggregations" = none) : Lacks nestedPath name answer .aggregations
  /-- It has some of the nested scopes and not the next one. -/
  | nestedScope {depth : Nat} {part : Json R} (within : depth < nestedPath.length)
      (reached : answer.at? (answerScopes depth) = some part) (absent : part.get? nestedScopeName = none) :
      Lacks nestedPath name answer .nestedScope
  /-- It has all nested scopes, but no result of the name in the innermost. -/
  | aggregation {part : Json R} (reached : answer.at? (answerScopes nestedPath.length) = some part)
      (absent : part.get? name = none) : Lacks nestedPath name answer (.aggregation name)

/-! ### Reading an answer -/

theorem descend_eq_ok_iff {name : String} {depth : Nat} {part result : Json R} :
    descend name depth part = .ok result ↔
      part.at? (List.replicate depth nestedScopeName ++ [name]) = some result := by
  induction depth generalizing part with
  | zero =>
    rw [descend, List.replicate_zero, List.nil_append, Json.at?]
    cases part.get? name <;> simp [Json.at?]
  | succ depth ih =>
    rw [descend, List.replicate_succ, List.cons_append, Json.at?]
    cases part.get? nestedScopeName with
    | none => simp
    | some inner => exact ih

/-- A result is read exactly where it stands below the nested scopes. -/
theorem unwrap_eq_ok_iff {nestedPath : List String} {name : String} {answer result : Json R} :
    unwrap nestedPath name answer = .ok result ↔
      answer.at? (answerScopes nestedPath.length ++ [name]) = some result := by
  rw [unwrap, answerScopes, List.cons_append, Json.at?]
  cases answer.get? "aggregations" with
  | none => simp
  | some part => exact descend_eq_ok_iff

/-- Going down the first scopes leaves the others. -/
theorem descend_add {name : String} {passed : Nat} {part inner : Json R}
    (reached : part.at? (List.replicate passed nestedScopeName) = some inner) (depth : Nat) :
    descend name (passed + depth) part = descend name depth inner := by
  induction passed generalizing part with
  | zero =>
    cases reached
    rw [Nat.zero_add]
  | succ passed ih =>
    rw [List.replicate_succ, Json.at?] at reached
    obtain ⟨next, found, reached⟩ := Option.bind_eq_some_iff.mp reached
    rw [Nat.succ_add, descend, found]
    exact ih reached

/-- Where no result is found, one of the scopes has not the next one in it, or the innermost not the result. -/
theorem lacks_of_descend {name : String} {depth : Nat} {part : Json R} {e : QueryError}
    (refused : descend name depth part = .error e) :
    (∃ passed inner, passed < depth ∧ part.at? (List.replicate passed nestedScopeName) = some inner ∧
      inner.get? nestedScopeName = none ∧ e = .malformed .nestedScope) ∨
    ∃ inner, part.at? (List.replicate depth nestedScopeName) = some inner ∧ inner.get? name = none ∧
      e = .malformed (.aggregation name) := by
  induction depth generalizing part with
  | zero =>
    rw [descend] at refused
    split at refused
    next => cases refused
    next absent =>
      cases refused
      exact .inr ⟨part, rfl, absent, rfl⟩
  | succ depth ih =>
    rw [descend] at refused
    split at refused
    next next found =>
      have step (passed : Nat) : part.at? (List.replicate (passed + 1) nestedScopeName) =
          next.at? (List.replicate passed nestedScopeName) := by
        rw [List.replicate_succ, Json.at?, found, Option.bind_some]
      rcases ih refused with ⟨passed, inner, within, reached, absent, same⟩ | ⟨inner, reached, absent, same⟩
      · exact .inl ⟨passed + 1, inner, Nat.succ_lt_succ within, (step passed).trans reached, absent, same⟩
      · exact .inr ⟨inner, (step depth).trans reached, absent, same⟩
    next absent =>
      cases refused
      exact .inl ⟨0, part, Nat.succ_pos depth, rfl, absent, rfl⟩

/-- An answer from which no result is read lacks some part on the way to it, and the error names the first. -/
theorem unwrap_eq_error_iff {nestedPath : List String} {name : String} {answer : Json R} {e : QueryError} :
    unwrap nestedPath name answer = .error e ↔
      ∃ what, Lacks nestedPath name answer what ∧ e = .malformed what := by
  -- a way into an answer that has aggregations goes on from these
  have into {part : Json R} (found : answer.get? "aggregations" = some part) (depth : Nat) :
      answer.at? (answerScopes depth) = part.at? (List.replicate depth nestedScopeName) := by
    rw [answerScopes, Json.at?, found, Option.bind_some]
  rw [unwrap]
  constructor
  · intro refused
    split at refused
    next part found =>
      rcases lacks_of_descend refused with
        ⟨passed, inner, within, reached, absent, same⟩ | ⟨inner, reached, absent, same⟩
      · exact ⟨_, .nestedScope within ((into found passed).trans reached) absent, same⟩
      · exact ⟨_, .aggregation ((into found _).trans reached) absent, same⟩
    next absent =>
      cases refused
      exact ⟨_, .aggregations absent, rfl⟩
  · rintro ⟨what, lacks, rfl⟩
    cases found : answer.get? "aggregations" with
    | none =>
      cases lacks with
      | aggregations => rfl
      | nestedScope _ reached _ => simp [answerScopes, Json.at?, found] at reached
      | aggregation reached _ => simp [answerScopes, Json.at?, found] at reached
    | some part =>
      cases lacks with
      | aggregations absent => cases absent.symm.trans found
      | @nestedScope depth inner within reached absent =>
        obtain ⟨rest, count⟩ := Nat.exists_eq_add_of_lt within
        rw [into found] at reached
        simp only [count, Nat.add_assoc, descend_add reached, descend, absent]
      | aggregation reached absent =>
        rw [into found] at reached
        exact (descend_add reached 0).trans (by rw [descend, absent])

/-! ### Requests -/

/-- Inside some of the nested scopes of a request there are the others. -/
theorem at?_requestScopes (nestedPath : List String) (name : String) (request : Json R) {depth : Nat}
    (within : depth ≤ nestedPath.length) :
    (Json.obj (wrapRequest nestedPath name request)).at? (requestScopes depth) =
      some (.obj (wrapRequest (nestedPath.drop depth) name request)) := by
  induction depth generalizing nestedPath with
  | zero => rfl
  | succ depth ih =>
    cases nestedPath with
    | nil => cases within
    | cons path rest => exact ih rest (Nat.le_of_succ_le_succ within)

/-- The paths of the nested scopes of a request, in order from the outside. -/
theorem at?_requestScopes_path (nestedPath : List String) (name : String) (request : Json R) {depth : Nat}
    (within : depth < nestedPath.length) :
    (Json.obj (wrapRequest nestedPath name request)).at?
      (requestScopes depth ++ [nestedScopeName, "nested", "path"]) = some (.str nestedPath[depth]) := by
  rw [Json.at?_append, at?_requestScopes nestedPath name request within.le, List.drop_eq_getElem_cons within]
  rfl

theorem toMembers_wrap [Scalar R] (nestedPath : List String) (name : String) (metric : Metric R) :
    (wrap nestedPath name metric).toMembers = wrapRequest nestedPath name metric.toJson := by
  induction nestedPath with
  | nil => rfl
  | cons path rest ih =>
    have inner : wrap (path :: rest) name metric = .nested path (wrap rest name metric) := rfl
    rw [inner, toMembers, ih]
    rfl

end Breakdown

/-- The number that a metric is sent with is one that can be read: a finite width, and a page size of 64 bits. -/
def Metric.IsReadable [Scalar R] : Metric R → Prop
  | .stats _ => True
  | .histogram _ width _ => Scalar.isFinite width = true
  | .terms _ size _ => Number.isUnsigned size = true

/-- The metric of a breakdown can be read. -/
def Breakdown.IsReadable [Scalar R] : Breakdown R → Prop
  | .named _ metric => metric.IsReadable
  | .nested _ inner => inner.IsReadable

namespace Store

variable [Scalar R]

/-! ### Results -/

/-- A section inside nested objects has its own results and the number of documents. -/
theorem requestResult_nested (path : String) (requests : List (String × Json R)) (docs : List (Json R)) :
    requestResult (.obj [("nested", .obj [("path", .str path)]), ("aggs", .obj requests)]) docs =
      (resultsOf requests docs).map fun results => .obj (Json.put "doc_count" (.int docs.length) results) := by
  have told : Measure.ofMembers? (R := R) [("nested", .obj [("path", .str path)]), ("aggs", .obj requests)] =
      some .nested := rfl
  have inner : innerResults (R := R) [("nested", .obj [("path", .str path)]), ("aggs", .obj requests)] docs =
      resultsOf requests docs := rfl
  rw [requestResult, told, inner]
  cases resultsOf requests docs <;> rfl

/-- A store that has a result for a request has it for the request inside nested scopes, below as many scopes of
its own. -/
theorem exists_resultsOf_wrapRequest {name : String} (free : name ≠ "doc_count") (nestedPath : List String)
    {request result : Json R} {docs : List (Json R)} (computed : requestResult request docs = some result) :
    ∃ results, resultsOf (Breakdown.wrapRequest nestedPath name request) docs = some results ∧
      (Json.obj results).at? (List.replicate nestedPath.length nestedScopeName ++ [name]) = some result := by
  induction nestedPath with
  | nil =>
    refine ⟨[(name, result)], ?_, ?_⟩
    · simp [Breakdown.wrapRequest, resultsOf, computed]
    · simp [Json.at?, Json.get?, Json.lookup]
  | cons path rest ih =>
    obtain ⟨results, found, stands⟩ := ih
    refine ⟨[(nestedScopeName, .obj (Json.put "doc_count" (.int docs.length) results))], ?_, ?_⟩
    · rw [Breakdown.wrapRequest, List.foldr_cons, ← Breakdown.wrapRequest, resultsOf, requestResult_nested, found]
      rfl
    · -- the number of documents does not hide the next scope, nor the result
      have scope : nestedScopeName ≠ "doc_count" := by decide
      rw [List.length_cons, List.replicate_succ, List.cons_append, Json.at?, Json.get?, Json.lookup, if_pos rfl,
        Option.bind_some, ← stands]
      cases rest with
      | nil => exact Json.at?_put free _ _ _
      | cons _ _ => exact Json.at?_put scope _ _ _

/-! ### Breakdowns -/

/-- The result of a listing is its page. -/
theorem requestResult_composite (told : Json R) (docs : List (Json R)) :
    requestResult (.obj [("composite", told)]) docs = (Listing.ofJson? told).map (·.page docs) := by
  have asked : Measure.ofMembers? [("composite", told)] = (Listing.ofJson? told).map .terms := rfl
  rw [requestResult, asked]
  cases Listing.ofJson? told <;> rfl

omit [Scalar R] in
/-- A listing is read as a search asks for it. -/
theorem Listing.ofJson?_eq {size : Nat} {written : Json R} (read : written.nat? = some size) (field : String)
    (after : Option (Json R)) :
    ofJson? (Json.object [
      ("size", some written),
      ("sources", some (.arr [.obj [(termSourceName, .obj [("terms",
        .obj [("field", .str field), ("missing_bucket", .bool true)])])]])),
      ("after", after)]) = some ⟨termSourceName, field, true, size, after⟩ := by
  cases after <;> simp [ofJson?, Json.object, Json.get?, Json.lookup, read, Json.items?, Json.members?, Json.str?,
    Json.bool?]

/-- A histogram, from its bins and the documents in each. -/
theorem histogramOf_eq (docs : List (Json R)) (field : String) (width offset : R) :
    histogramOf docs field width offset =
      .obj [("buckets", .arr ((binned docs field width offset).map fun (k, inside) =>
        .obj [(binStatsName, statsOf inside field), ("key", .ofReal (Scalar.ofInt k * width + offset)),
          ("doc_count", .int inside.length)]))] := by
  unfold histogramOf binned
  dsimp only
  cases (docs.map fun doc => (doc, binsOf field width offset doc)).flatMap Prod.snd with
  | nil => rfl
  | cons k ks =>
    rw [List.map_map]
    rfl

/-- A listing as a search asks for it. -/
theorem page_eq (docs : List (Json R)) (field : String) (size : Nat) (after : Option (Json R)) :
    Listing.page ⟨termSourceName, field, true, size, after⟩ docs = termsOf docs field size after := by
  cases after <;> rfl

/-- A metric has the result that the store reads off its request. -/
theorem requestResult_toJson {metric : Metric R} (readable : metric.IsReadable) (docs : List (Json R)) :
    requestResult metric.toJson docs = some (resultOf docs metric) := by
  cases metric with
  | stats field => rfl
  | histogram field width offset =>
    obtain ⟨request, written, told, inner⟩ : ∃ request,
        (Metric.histogram field width offset).toJson = .obj request ∧
        Measure.ofMembers? request =
          some (.histogram field width ((offset.filter Scalar.isFinite).getD (Scalar.ofInt 0))) ∧
        ∀ inside, innerResults request inside = some [(binStatsName, statsOf inside field)] := by
      refine ⟨_, rfl, ?_, fun _ => rfl⟩
      have finite : Json.ofReal width = .real width := if_pos readable
      rw [finite]
      cases offset with
      | none => rfl
      | some start =>
        cases given : Scalar.isFinite start
        · have absent : Json.ofReal start = .null := by rw [Json.ofReal, given]; rfl
          rw [Option.map_some, absent, Option.filter_some, given]
          rfl
        · have present : Json.ofReal start = .real start := if_pos given
          rw [Option.map_some, present, Option.filter_some, given]
          rfl
    rw [written, requestResult, told, resultOf, histogramOf_eq]
    simp only [inner, Option.bind_eq_bind, Option.bind_some]
    rw [List.mapM_pure]
    rfl
  | terms field size after =>
    rw [Metric.toJson, requestResult_composite, Listing.ofJson?_eq (Json.nat?_natCast readable), Option.map_some,
      page_eq, resultOf]

/-- What the store computes for a breakdown is what it reads off the section that the breakdown is sent as. -/
theorem resultsOf_toMembers {b : Breakdown R} (readable : b.IsReadable) (docs : List (Json R)) :
    resultsOf b.toMembers docs = some (breakdownOf docs b) := by
  induction b with
  | named name metric =>
    rw [Breakdown.toMembers, resultsOf, requestResult_toJson readable]
    rfl
  | nested path inner ih =>
    rw [Breakdown.toMembers, resultsOf, requestResult_nested, ih readable]
    rfl

end Store

namespace Breakdown

/-- What is asked for inside nested scopes and read from inside them is what would be asked for alone. Under any
name but that of the number of documents, a result that the store has for a request is read off every answer whose
aggregations are what the store has for the wrapped request; and so is the result of a metric off the answer of a
store. The scopes of the wrapped request are those of the path, outermost first, with nothing but the request
inside the last. A result is read exactly where it stands below the scopes of an answer; if the answer lacks the
aggregations, one of the scopes or the result, reading it is an internal error that names what is missing. -/
theorem wrapped_result_unwrapped [Scalar R] (nestedPath : List String) (name : String) :
    (name ≠ "doc_count" →
      (∀ (request : Json R) (docs : List (Json R)) (result : Json R),
        Store.requestResult request docs = some result →
        ∃ results, Store.resultsOf (wrapRequest nestedPath name request) docs = some results ∧
          ∀ answer, answer.get? "aggregations" = some (.obj results) →
            unwrap nestedPath name answer = .ok result) ∧
      ∀ (st : Store R) (index : String) (query : Option (Query R)) (metric : Metric R),
        unwrap nestedPath name (st.answer ⟨index, query, .breakdown (.wrap nestedPath name metric)⟩) =
          .ok (Store.resultOf (st.selected index query) metric)) ∧
    (∀ metric : Metric R, (wrap nestedPath name metric).toMembers = wrapRequest nestedPath name metric.toJson) ∧
    (∀ request : Json R,
      (∀ (depth : Nat) (within : depth < nestedPath.length), (Json.obj (wrapRequest nestedPath name request)).at?
        (requestScopes depth ++ [nestedScopeName, "nested", "path"]) = some (.str nestedPath[depth])) ∧
      (Json.obj (wrapRequest nestedPath name request)).at? (requestScopes nestedPath.length) =
        some (.obj [(name, request)])) ∧
    (∀ answer result : Json R, unwrap nestedPath name answer = .ok result ↔
      answer.at? (answerScopes nestedPath.length ++ [name]) = some result) ∧
    ∀ (answer : Json R) (e : QueryError), unwrap nestedPath name answer = .error e ↔
      ∃ what, Lacks nestedPath name answer what ∧ e = .internal (.malformed what) := by
  refine ⟨fun free => ⟨fun request docs result computed => ?_, fun st index query metric =>
    unwrap_answer free st index query nestedPath metric⟩, toMembers_wrap nestedPath name, fun request =>
    ⟨fun depth within => at?_requestScopes_path nestedPath name request within, ?_⟩,
    fun _ _ => unwrap_eq_ok_iff, fun _ _ => unwrap_eq_error_iff⟩
  · obtain ⟨results, found, stands⟩ := Store.exists_resultsOf_wrapRequest free nestedPath computed
    refine ⟨results, found, fun answer read => unwrap_eq_ok_iff.mpr ?_⟩
    rw [answerScopes, List.cons_append, Json.at?, read]
    exact stands
  · rw [at?_requestScopes nestedPath name request le_rfl, List.drop_length]
    rfl

end Breakdown

/-- A histogram of ages, without a section of its own. -/
def Sample.ageHistogram : Json Rat := .obj [("histogram", .obj [("field", .str "age"), ("interval", .int 50)])]

open TieredSearch.Breakdown in
/-- The histogram of two ages is read from inside two scopes, and from no answer without aggregations. -/
theorem bin_of_ages_unwrapped :
    ∃ results, Store.resultsOf (wrapRequest ["visits", "visits.labs"] "ages" Sample.ageHistogram)
      [.obj [("age", .int 10)], .obj [("age", .int 30)]] = some results ∧
    unwrap ["visits", "visits.labs"] "ages" (.obj [("aggregations", .obj results)]) =
      .ok (.obj [("buckets", .arr [.obj [("key", .real 0), ("doc_count", .int 2)]])]) ∧
    unwrap ["visits", "visits.labs"] "ages" (.obj [] : Json Rat) =
      .error (.internal (.malformed .aggregations)) := by
  obtain ⟨inverse, -, -, -, refused⟩ := wrapped_result_unwrapped (R := Rat) ["visits", "visits.labs"] "ages"
  have computed : Store.requestResult Sample.ageHistogram [.obj [("age", .int 10)], .obj [("age", .int 30)]] =
      some (.obj [("buckets", .arr [.obj [("key", .real 0), ("doc_count", .int 2)]])]) := by
    with_unfolding_all rfl
  obtain ⟨results, found, read⟩ := (inverse (by decide)).1 _ _ _ computed
  exact ⟨results, found, read _ rfl, (refused _ _).mpr ⟨_, .aggregations rfl, rfl⟩⟩

end TieredSearch
