import TieredSearch.Proofs.Aggregation.Tiling
import TieredSearch.Proofs.Filter.SameElement
import TieredSearch.Proofs.Store.Size

/-!
# Sub-ranges select documents

The bounds of a numeric aggregation become clauses beside the filters, and clauses select documents: statistics
and bins are then taken over all values that the selected documents hold. A document with the ages ten and sixty
is selected from fifty on, and its ten is described with its sixty.

* `Field.reaches`: what the clauses ask of a document, which is a value on the inner side of each bound, within
  one chain of nested elements.
* `Store.valuesReaching`: all values of the documents that are selected so.
* Main statement (`sub_range_describes_reaching`): statistics tell the extremes and the number of these values,
  every one of them lies in a bin, and a bin counts the documents that hold a value in it. So the extremes keep to
  the sub-range exactly when no selected document holds a value outside it (`StatBucket.keepsTo_iff`), as where no
  document holds two different values (`Store.isWithin_of_holdsAlike`).
-/

namespace TieredSearch

open Document (numbersAt narrowings)

/-! ### Documents that reach into a sub-range -/

namespace Field

variable {field : Field} {start stop : Option Rat}

/-- Whether a document holds a value of the field from a start on, and one before a stop, as far as these are
given. Inside nested objects both are found from one chain of elements. -/
def reaches (field : Field) (start stop : Option Rat) (doc : Json Rat) : Bool :=
  (start.isNone && stop.isNone) || (narrowings field.nestedPath doc).any (Store.spans field.name start stop)

/-- The clauses for the bounds ask a document to reach into the sub-range. -/
theorem all_boundClauses_selects (field : Field) (start stop : Option Rat) (doc : Json Rat) :
    (field.boundClauses start stop).all (·.selects doc) = field.reaches start stop doc := by
  rw [boundClauses, reaches]
  by_cases root : field.nestedPath = []
  · rw [if_pos (List.isEmpty_iff.mpr root), Store.all_bounds_eq_spans, root, narrowings, List.any_cons, List.any_nil,
      Bool.or_false]
    by_cases unbounded : (start.isNone && stop.isNone) = true
    · rw [Store.spans_of_unbounded unbounded, unbounded]
      rfl
    · rw [Bool.eq_false_iff.mpr unbounded, Bool.false_or]
  · rw [if_neg (mt List.isEmpty_iff.mp root)]
    have asked (view : Json Rat) : Query.admits (Query.conjunction? (AggregationRequest.bounds field.name start stop))
        view = Store.spans field.name start stop view := by
      rw [Query.admits_conjunction?, Store.all_bounds_eq_spans]
    have some : (Query.conjunction? (AggregationRequest.bounds field.name start stop)).isNone =
        (start.isNone && stop.isNone) := by
      cases start <;> cases stop <;> rfl
    rw [← some]
    cases both : Query.conjunction? (AggregationRequest.bounds field.name start stop) with
    | none => rfl
    | some q =>
      rw [both] at asked
      rw [Option.map_some, Option.toList_some, List.all_cons, List.all_nil, Bool.and_true, Query.selects_nestedIn,
        Option.isNone_some, Bool.false_or]
      exact congrArg (List.any _) (funext asked)

/-- A document that reaches into a sub-range is asked for nothing, or sees, as a whole or from a chain of elements,
a value on the inner side of each bound. -/
theorem exists_spans_of_reaches {doc : Json Rat} (reached : field.reaches start stop doc = true) :
    ∃ view, view ∈ doc :: narrowings field.nestedPath doc ∧ Store.spans field.name start stop view = true := by
  rw [reaches, Bool.or_eq_true, List.any_eq_true] at reached
  rcases reached with unbounded | ⟨view, seen, spanned⟩
  · exact ⟨doc, List.mem_cons_self, Store.spans_of_unbounded unbounded doc⟩
  · exact ⟨view, List.mem_cons_of_mem _ seen, spanned⟩

/-- A document holds no two different values of the field, neither as a whole nor seen from chains of nested
elements. -/
def HoldsAlike (field : Field) (doc : Json Rat) : Prop :=
  ∀ view ∈ doc :: narrowings field.nestedPath doc, ∀ x ∈ numbersAt view field.name,
    ∀ view' ∈ doc :: narrowings field.nestedPath doc, ∀ y ∈ numbersAt view' field.name, x = y

end Field

namespace Store

variable {st : Store Rat} {index : String} {base : Option (Query Rat)} {field : Field} {start stop : Option Rat}

/-- The documents that pass a query and reach into a sub-range. -/
def reaching (st : Store Rat) (index : String) (base : Option (Query Rat)) (field : Field)
    (start stop : Option Rat) : List (Json Rat) :=
  (st.selected index base).filter (field.reaches start stop)

/-- All values of these documents, whether they lie in the sub-range or not. -/
def valuesReaching (st : Store Rat) (index : String) (base : Option (Query Rat)) (field : Field)
    (start stop : Option Rat) : List Rat :=
  (st.reaching index base field start stop).flatMap (numbersAt · field.name)

/-- What passes the clauses for the bounds beside a query are the documents that reach into the sub-range. -/
theorem selected_boundClauses (st : Store Rat) (index : String) (base : Option (Query Rat)) (field : Field)
    (start stop : Option Rat) :
    st.selected index (Query.conjunction? (base.toList ++ field.boundClauses start stop)) =
      st.reaching index base field start stop := by
  rw [reaching, selected, selected, List.filter_filter]
  refine List.filter_congr fun doc _ => ?_
  rw [Query.admits_beside, Field.all_boundClauses_selects, Bool.and_comm]

theorem sizeItems_reaching_le (st : Store Rat) (index : String) (base : Option (Query Rat)) (field : Field)
    (start stop : Option Rat) : Json.sizeItems (st.reaching index base field start stop) ≤ st.size := by
  rw [← selected_boundClauses]
  exact st.sizeItems_selected_le index _

theorem length_valuesReaching_le (st : Store Rat) (index : String) (base : Option (Query Rat)) (field : Field)
    (start stop : Option Rat) : (st.valuesReaching index base field start stop).length ≤ st.size :=
  (length_flatMap_numbersAt_le field.name _).trans (st.sizeItems_reaching_le index base field start stop)

theorem length_reaching_le (st : Store Rat) (index : String) (base : Option (Query Rat)) (field : Field)
    (start stop : Option Rat) : (st.reaching index base field start stop).length ≤ st.size :=
  (Json.length_le_sizeItems _).trans (st.sizeItems_reaching_le index base field start stop)

/-- Where no document holds two different values, those that reach into a sub-range hold values in it only. -/
theorem isWithin_of_holdsAlike (alike : ∀ doc ∈ st.selected index base, field.HoldsAlike doc) {x : Rat}
    (described : x ∈ st.valuesReaching index base field start stop) : isWithin start stop x = true := by
  obtain ⟨doc, reached, held⟩ := List.mem_flatMap.mp described
  obtain ⟨selected, reached⟩ := List.mem_filter.mp reached
  obtain ⟨view, seen, spanned⟩ := Field.exists_spans_of_reaches reached
  have same (y : Rat) (hy : y ∈ numbersAt view field.name) : x = y :=
    alike doc selected doc List.mem_cons_self x held view seen y hy
  rw [spans, Bool.and_eq_true] at spanned
  rw [isWithin_iff]
  constructor
  · rintro s rfl
    obtain ⟨y, hy, above⟩ := List.any_eq_true.mp spanned.1
    exact same y hy ▸ of_decide_eq_true above
  · rintro e rfl
    obtain ⟨y, hy, below⟩ := List.any_eq_true.mp spanned.2
    exact same y hy ▸ of_decide_eq_true below

/-- The bins that are read off the histogram of a store count the documents that hold a number of theirs, and every
number lies in one of them. -/
theorem exists_counts_of_histogramOf {docs : List (Json Rat)} {name : String} {width offset : Rat}
    (few : docs.length < Number.signedBound)
    (numbers : (docs.flatMap (numbersAt · name)).length < Number.signedBound) (positive : 0 < width)
    (fits : ∀ doc ∈ docs, ∀ x ∈ numbersAt doc name, Number.isSigned (placeOf width offset x) = true) :
    ∃ items bins, ((histogramOf docs name width offset).get? "buckets").bind Json.items? = some items ∧
      StatBucket.ofBins width items = .ok bins ∧
      (∀ b ∈ bins, b.count = docs.countP fun doc => (numbersAt doc name).any b.covers) ∧
      ∀ x ∈ docs.flatMap (numbersAt · name), ∃ b ∈ bins, b.covers x = true := by
  obtain ⟨items, bins, written, read, placed, filled⟩ := exists_buckets_of_histogramOf few numbers
  refine ⟨items, bins, written, read, fun b hb => ?_, fun x hx => ?_⟩
  · obtain ⟨k, lower, upper, count⟩ := placed b hb
    rw [count, ← List.countP_eq_length_filter]
    refine congrArg Nat.cast (List.countP_congr fun doc mem => ?_)
    rw [binsOf_eq fits mem, List.contains_iff_mem, List.mem_map, List.any_eq_true]
    simp only [StatBucket.covers_eq_decide positive lower upper, decide_eq_true_iff]
  · obtain ⟨doc, mem, held⟩ := List.mem_flatMap.mp hx
    have falls : placeOf width offset x ∈ binsOf name width offset doc := by
      rw [binsOf_eq fits mem]
      exact List.mem_map_of_mem held
    obtain ⟨b, hb, lower, upper⟩ := filled _ (List.mem_flatMap.mpr ⟨doc, mem, falls⟩)
    exact ⟨b, hb, (StatBucket.covers_eq_decide positive lower upper x).trans (decide_eq_true rfl)⟩

end Store

/-! ### Buckets in a sub-range -/

namespace StatBucket

/-- The extremes of a bucket keep to a range: the least value is not below its start, and the greatest one is
before its stop. -/
structure KeepsTo (b : StatBucket Rat) (start stop : Option Rat) : Prop where
  /-- The least value is not below the start. -/
  above : ∀ least, b.min = some least → ∀ s, start = some s → s ≤ least
  /-- The greatest value is before the stop. -/
  below : ∀ greatest, b.max = some greatest → ∀ e, stop = some e → greatest < e

/-- The bucket has a point in common with a range. -/
def Meets (b : StatBucket Rat) (start stop : Option Rat) : Prop :=
  ∃ x, b.covers x = true ∧ isWithin start stop x = true

/-- The extremes of values keep to a range exactly when all the values lie in it. -/
theorem keepsTo_iff {b : StatBucket Rat} {values : List Rat} (least : b.min = values.min?)
    (greatest : b.max = values.max?) {start stop : Option Rat} :
    b.KeepsTo start stop ↔ ∀ x ∈ values, isWithin start stop x = true := by
  constructor
  · rintro ⟨above, below⟩ x hx
    obtain ⟨low, isLeast⟩ := Option.isSome_iff_exists.mp (List.isSome_min?_of_mem hx)
    obtain ⟨high, isGreatest⟩ := Option.isSome_iff_exists.mp (List.isSome_max?_of_mem hx)
    have lowest := (List.min?_eq_some_iff.mp isLeast).2 x hx
    have highest := (List.max?_eq_some_iff.mp isGreatest).2 x hx
    rw [isWithin_iff]
    constructor
    · intro s given
      exact (above low (least.trans isLeast) s given).trans lowest
    · intro e given
      exact highest.trans_lt (below high (greatest.trans isGreatest) e given)
  · intro within
    constructor
    · intro low isLeast s given
      have mem := (List.min?_eq_some_iff.mp (least.symm.trans isLeast)).1
      exact (isWithin_iff.mp (within low mem)).1 s given
    · intro high isGreatest e given
      have mem := (List.max?_eq_some_iff.mp (greatest.symm.trans isGreatest)).1
      exact (isWithin_iff.mp (within high mem)).2 e given

end StatBucket

/-- **What a sub-range describes.** A valid request aggregates a numeric field, at the root or under nested
objects, of which the documents hold any number of values. Statistics tell the extremes and the number of all
values of the documents that pass the filters and reach into the sub-range; the extremes keep to the sub-range
exactly when these values all lie in it. Bins of any width are answered with, each of which counts the documents that
hold a value in it, and every one of these values lies in a bin. So every bin that counts a document holds one of the
values, and meets the sub-range where they all lie in it. They do where no document holds two different values. -/
theorem sub_range_describes_reaching {ctx : Context} {index : String} {req : AggregationRequest Rat}
    {st : Store Rat} {field : Field} {base : Option (Query Rat)}
    (known : ∃ s, ctx.schema index = .ok s ∧ s.aggregatedNumeric req.field = .ok field)
    (filters : ctx.compileFilter index req.filter (some req.field) req.filterSelf req.authFilter = .ok base)
    (valid : req.validate = .ok ()) (small : st.size < Number.signedBound) :
    let described := st.valuesReaching index base field req.rangeStart req.rangeEnd
    let inside := ∀ x ∈ described, isWithin req.rangeStart req.rangeEnd x = true
    (∃ overall, (req.stats ctx index).onStore st = .value overall ∧ overall.min = described.min? ∧
      overall.max = described.max? ∧ overall.count = described.length ∧
      (overall.KeepsTo req.rangeStart req.rangeEnd ↔ inside)) ∧
    (∀ step, 0 < step → AggregationRequest.FitsWords req.rangeStart step described →
      ∃ bins, (req.histogramByStep ctx index step).onStore st = .value bins ∧
        (∀ b ∈ bins, b.count = (st.reaching index base field req.rangeStart req.rangeEnd).countP
          fun doc => (numbersAt doc field.name).any b.covers) ∧
        (∀ x ∈ described, ∃ b ∈ bins, b.covers x = true) ∧
        ∀ b ∈ bins, 0 < b.count → (∃ x ∈ described, b.covers x = true) ∧
          (inside → b.Meets req.rangeStart req.rangeEnd)) ∧
    ((∀ doc ∈ st.selected index base, field.HoldsAlike doc) → inside) := by
  intro described inside
  have numbers : described.length < Number.signedBound := (st.length_valuesReaching_le ..).trans_lt small
  have selected := st.selected_boundClauses index base field req.rangeStart req.rangeEnd
  refine ⟨?_, ?_, ?_⟩
  · have all := congrArg (List.flatMap (numbersAt · field.name)) selected
    obtain ⟨overall, run, least, greatest, count⟩ :=
      AggregationRequest.exists_stats_onStore known filters valid all numbers
    exact ⟨overall, run, least, greatest, count, StatBucket.keepsTo_iff least greatest⟩
  · intro step positive fits
    have few := (st.length_reaching_le index base field req.rangeStart req.rangeEnd).trans_lt small
    obtain ⟨items, bins, written, read, counts, lies⟩ := Store.exists_counts_of_histogramOf few numbers positive
      fun doc mem x hx => fits x (List.mem_flatMap.mpr ⟨doc, mem, hx⟩)
    rw [← selected] at written
    refine ⟨bins, ?_, counts, lies, fun b hb counted => ?_⟩
    · rw [AggregationRequest.histogramByStep_eq (AggregationRequest.ordered_of_validate valid) positive]
      exact AggregationRequest.histogram_onStore_eq known filters written read
    · rw [counts b hb, Nat.cast_pos, List.countP_pos_iff] at counted
      obtain ⟨doc, mem, holds⟩ := counted
      obtain ⟨x, held, covered⟩ := List.any_eq_true.mp holds
      have hx : x ∈ described := List.mem_flatMap.mpr ⟨doc, mem, held⟩
      exact ⟨⟨x, hx, covered⟩, fun within => ⟨x, covered, within x hx⟩⟩
  · intro alike x hx
    exact Store.isWithin_of_holdsAlike alike hx

/-- Results from five on, below seven. -/
def Sample.resultsFromFive : AggregationRequest Rat :=
  ⟨"visits.labs.result", none, true, some 5, some 7, none, none, none⟩

/-- A site of subjects with laboratory results at their visits. -/
def Sample.laboratory : Context :=
  { Sample.context .regular with
    registry := { entries := [("subject", { schema := Sample.visitTarget.schema, stamp := 0 })] } }

/-- Two subjects: the one with a result of six beside others, the other one with two results around six. -/
def Sample.results : Store Rat :=
  Sample.store [Sample.subjectWithResults [[3], [9, 6]], Sample.subjectWithResults [[4, 8]]]

/-- From five on, below seven, a result of six brings the other results of its subject with it. The second subject
is not described: one of its results is behind the start and another one before the stop, but none is both. -/
theorem results_beside_six_described :
    (∃ overall, (Sample.resultsFromFive.stats Sample.laboratory "subject").onStore Sample.results = .value overall ∧
      overall.min = some 3 ∧ overall.max = some 9 ∧ overall.count = 3 ∧ ¬overall.KeepsTo (some 5) (some 7)) ∧
    ∃ bins, (Sample.resultsFromFive.histogramByStep Sample.laboratory "subject" 2).onStore Sample.results =
        .value bins ∧ (∀ b ∈ bins, 0 < b.count → ∃ x ∈ ([3, 9, 6] : List Rat), b.covers x = true) ∧
          ∀ x ∈ ([3, 9, 6] : List Rat), ∃ b ∈ bins, b.covers x = true := by
  have known : ∃ s, Sample.laboratory.schema "subject" = .ok s ∧
      s.aggregatedNumeric Sample.resultsFromFive.field =
        .ok ⟨"visits.labs.result", .numeric, ["visits", "visits.labs"], false, false⟩ := ⟨_, rfl, rfl⟩
  have small : Sample.results.size < Number.signedBound := by decide
  have described : Sample.results.valuesReaching "subject" none
      ⟨"visits.labs.result", .numeric, ["visits", "visits.labs"], false, false⟩
        Sample.resultsFromFive.rangeStart Sample.resultsFromFive.rangeEnd = [3, 9, 6] := by
    decide +kernel
  have fits : AggregationRequest.FitsWords Sample.resultsFromFive.rangeStart 2 [3, 9, 6] := by
    unfold AggregationRequest.FitsWords
    decide +kernel
  obtain ⟨stats, binned, -⟩ := sub_range_describes_reaching known rfl rfl small
  rw [described] at stats binned
  obtain ⟨overall, run, least, greatest, count, keeps⟩ := stats
  obtain ⟨bins, runBins, -, lies, holds⟩ := binned 2 (by decide) fits
  refine ⟨⟨overall, run, least, greatest, count, fun kept => ?_⟩, bins, runBins, fun b hb counts => ?_, lies⟩
  · have outside : isWithin Sample.resultsFromFive.rangeStart Sample.resultsFromFive.rangeEnd 3 = false := by
      decide +kernel
    have inside := keeps.mp kept 3 List.mem_cons_self
    rw [outside] at inside
    cases inside
  · exact (holds b hb counts).1

/-- Ages from fifty on. -/
def Sample.agesFromFifty : AggregationRequest Rat := ⟨"age", none, true, some 50, none, none, none, none⟩

/-- A subject with the ages ten and sixty. -/
def Sample.agedTwice : Store Rat :=
  Sample.store [.obj [("auth_resource_path", .str "/a"), ("age", .arr [.int 10, .int 60])]]

/-- From fifty on, the least age of a subject with the ages ten and sixty is ten, and one of the bins that count it
ends at fifty. -/
theorem ten_described_from_fifty :
    Sample.agesFromFifty.validate = .ok () ∧
    (∃ overall, (Sample.agesFromFifty.stats (Sample.context .regular) "subject").onStore Sample.agedTwice =
      .value overall ∧ overall.min = some 10 ∧ ¬overall.KeepsTo (some 50) none) ∧
    ∃ bins, (Sample.agesFromFifty.histogramByStep (Sample.context .regular) "subject" 50).onStore Sample.agedTwice =
      .value bins ∧ ∃ b ∈ bins, 0 < b.count ∧ ¬b.Meets (some 50) none := by
  have run : (Sample.agesFromFifty.stats (Sample.context .regular) "subject").onStore Sample.agedTwice =
      .value ⟨some 50, some 60, some 10, some 60, some 35, some 70, 2⟩ := by
    with_unfolding_all rfl
  have runBins : (Sample.agesFromFifty.histogramByStep (Sample.context .regular) "subject" 50).onStore
      Sample.agedTwice = .value [⟨some 0, some 50, some 10, some 60, some 35, some 70, 1⟩,
        ⟨some 50, some 100, some 10, some 60, some 35, some 70, 1⟩] := by
    with_unfolding_all rfl
  refine ⟨rfl, ⟨_, run, rfl, fun kept => ?_⟩, _, runBins, _, List.mem_cons_self, Int.one_pos, ?_⟩
  · have least := kept.above 10 rfl 50 rfl
    exact absurd least (by decide)
  · rintro ⟨x, covered, within⟩
    have above := (isWithin_iff.mp within).1 50 rfl
    have below : x < 50 := by
      simp only [StatBucket.covers, Bool.and_eq_true, decide_eq_true_iff] at covered
      exact covered.2
    exact absurd above (not_le.mpr below)

end TieredSearch
