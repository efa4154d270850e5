import TieredSearch.Proofs.Aggregation.Bins
import TieredSearch.Proofs.Scope.Resolution

/-!
# Histograms tile the range

In exact arithmetic, the bins of a histogram tile the range that is asked for. Main statement
(`histograms_tile_range`): over a store whose documents hold one number at most, a histogram by width
lays its bins from the lower bound, or from zero, on, and one by number from the lower bound, or the
least value, to the upper bound, or one behind the greatest value. Whatever is in the range lies in
exactly one bin, and all bins together count it once.

The bounds of the request become clauses of the query (`Store.flatMap_numbersAt_selected`), the start
becomes an offset below one width (`exists_offset`), and the edges of a number of bins are taken from
statistics over the same range (`AggregationRequest.exists_stats`).
-/

namespace TieredSearch

open Document (numbersAt)

/-! ### Values in range -/

/-- Whether a number lies from a start on, before a stop, as far as these are given. -/
def isWithin (start stop : Option Rat) (x : Rat) : Bool := start.all (· ≤ x) && stop.all (x < ·)

theorem isWithin_iff {start stop : Option Rat} {x : Rat} :
    isWithin start stop x = true ↔ (∀ s, start = some s → s ≤ x) ∧ ∀ e, stop = some e → x < e := by
  cases start <;> cases stop <;> simp [isWithin]

namespace Store

variable {st : Store Rat} {index field : String} {base : Option (Query Rat)} {start stop : Option Rat}

/-- The numbers of the documents that pass a query, between a start and a stop. -/
def valuesWithin (st : Store Rat) (index : String) (base : Option (Query Rat)) (field : String)
    (start stop : Option Rat) : List Rat :=
  ((st.selected index base).flatMap (numbersAt · field)).filter (isWithin start stop)

/-- The documents that pass a query and hold a number between a start and a stop. -/
def holdersWithin (st : Store Rat) (index : String) (base : Option (Query Rat)) (field : String)
    (start stop : Option Rat) : List (Json Rat) :=
  (st.selected index base).filter fun doc => (numbersAt doc field).any (isWithin start stop)

/-- The documents of an index hold one number of a field, or none, and can be counted within the
words. -/
structure HoldsSingly (st : Store Rat) (index field : String) : Prop where
  /-- No document holds two numbers. -/
  single : ∀ doc ∈ st.documents index, (numbersAt doc field).length ≤ 1
  /-- There are fewer documents than words. -/
  few : (st.documents index).length < Number.signedBound

theorem mem_valuesWithin {x : Rat} :
    x ∈ st.valuesWithin index base field start stop ↔
      (∃ doc ∈ st.selected index base, x ∈ numbersAt doc field) ∧ isWithin start stop x = true := by
  rw [valuesWithin, List.mem_filter, List.mem_flatMap]

theorem HoldsSingly.single_selected (holds : st.HoldsSingly index field) (query : Option (Query Rat)) :
    ∀ doc ∈ st.selected index query, (numbersAt doc field).length ≤ 1 :=
  fun doc mem => holds.single doc (List.mem_of_mem_filter mem)

theorem HoldsSingly.few_selected (holds : st.HoldsSingly index field) (query : Option (Query Rat)) :
    (st.selected index query).length < Number.signedBound :=
  (List.length_filter_le _ _).trans_lt holds.few

/-- There are as many values as documents that hold them. -/
theorem length_valuesWithin (holds : st.HoldsSingly index field) :
    (st.valuesWithin index base field start stop).length =
      (st.holdersWithin index base field start stop).length := by
  have single := holds.single_selected base
  rw [valuesWithin, holdersWithin]
  generalize st.selected index base = docs at single
  induction docs with
  | nil => rfl
  | cons doc docs ih =>
    obtain ⟨one, others⟩ := List.forall_mem_cons.mp single
    rw [List.flatMap_cons, List.filter_append, List.length_append, ih others, List.filter_cons]
    match numbersAt doc field, one with
    | [], _ => simp
    | [x], _ => cases inside : isWithin start stop x <;> simp [inside, add_comm]

/-- Whether a document holds a number from a start on, and a number before a stop, as far as these are given. They
need not be one number. -/
def spans (field : String) (start stop : Option Rat) (doc : Json Rat) : Bool :=
  start.all (fun s => (numbersAt doc field).any (s ≤ ·)) && stop.all fun e => (numbersAt doc field).any (· < e)

/-- Without bounds nothing is asked of a document. -/
theorem spans_of_unbounded (unbounded : (start.isNone && stop.isNone) = true) (doc : Json Rat) :
    spans field start stop doc = true := by
  rw [Bool.and_eq_true, Option.isNone_iff_eq_none, Option.isNone_iff_eq_none] at unbounded
  rw [unbounded.1, unbounded.2]
  rfl

/-- The clauses for the bounds ask for a number on the inner side of each bound. -/
theorem all_bounds_eq_spans (doc : Json Rat) :
    (AggregationRequest.bounds field start stop).all (·.selects doc) = spans field start stop doc := by
  have lower (s : Rat) : (Query.range field .gte (.ofReal s)).selects doc = (numbersAt doc field).any (s ≤ ·) := by
    rw [Query.selects]
    rfl
  have upper (e : Rat) : (Query.range field .lt (.ofReal e)).selects doc = (numbersAt doc field).any (· < e) := by
    rw [Query.selects]
    rfl
  cases start <;> cases stop <;> simp [AggregationRequest.bounds, spans, lower, upper]

/-- The clauses for the bounds select the documents with a number between them. -/
theorem all_bounds_selects {doc : Json Rat} {x : Rat} (numbers : numbersAt doc field = [x]) :
    (AggregationRequest.bounds field start stop).all (·.selects doc) = isWithin start stop x := by
  rw [all_bounds_eq_spans, spans, numbers, isWithin]
  simp

/-- What passes the bounds beside a query holds the values between them. -/
theorem flatMap_numbersAt_selected (base : Option (Query Rat)) (start stop : Option Rat)
    (holds : st.HoldsSingly index field) :
    (st.selected index (Query.conjunction? (base.toList ++ AggregationRequest.bounds field start stop))).flatMap
      (numbersAt · field) = st.valuesWithin index base field start stop := by
  have single := holds.single
  rw [valuesWithin, selected, selected]
  generalize st.documents index = docs at single
  induction docs with
  | nil => rfl
  | cons doc docs ih =>
    obtain ⟨one, others⟩ := List.forall_mem_cons.mp single
    rw [List.filter_cons, List.filter_cons, Query.admits_beside]
    match numbers : numbersAt doc field, one with
    | [], _ =>
      -- whether it is selected or not, such a document holds no value
      cases Query.admits base doc <;>
        cases (AggregationRequest.bounds field start stop).all (·.selects doc) <;>
          simp [numbers, ih others]
    | [x], _ =>
      rw [all_bounds_selects numbers]
      cases Query.admits base doc <;> cases inside : isWithin start stop x <;>
        simp [numbers, inside, ih others]

end Store

/-! ### The start as an offset -/

/-- Bins are laid from an offset that lies a whole number of widths from the start, or from zero. -/
theorem exists_offset (start : Option Rat) {step : Rat} (positive : 0 < step) :
    ∃ m : Int, start.getD 0 = AggregationRequest.binOffset start step + m * step := by
  cases start with
  | none => exact ⟨0, by rw [Int.cast_zero, zero_mul, add_zero]; rfl⟩
  | some s =>
    have offset : AggregationRequest.binOffset (some s) step = Scalar.modulo s step := rfl
    refine ⟨⌊s / step⌋, ?_⟩
    rw [offset, Scalar.modulo_rat s positive, Option.getD_some, sub_add_cancel]

/-! ### Requests -/

namespace AggregationRequest

variable {ctx : Context} {index : String} {req : AggregationRequest Rat} {st : Store Rat} {field : Field}
  {base : Option (Query Rat)} {start : Option Rat} {step : Rat}

/-- A request aggregates a field outside nested objects, over what passes a query. -/
structure Aggregates (ctx : Context) (index : String) (req : AggregationRequest Rat) (field : Field)
    (base : Option (Query Rat)) : Prop where
  /-- The field is one of numbers of the schema. -/
  known : ∃ s, ctx.schema index = .ok s ∧ s.aggregatedNumeric req.field = .ok field
  /-- It lies outside nested objects. -/
  root : field.nestedPath = []
  /-- The query is that of the filters. -/
  filters : ctx.compileFilter index req.filter (some req.field) req.filterSelf req.authFilter = .ok base

/-- The bounds are in order. -/
def Ordered (req : AggregationRequest Rat) : Prop :=
  ∀ start stop, req.rangeStart = some start → req.rangeEnd = some stop → start ≤ stop

/-- The numbers of the bins of values, as they are laid from a start, fit the words. -/
def FitsWords (start : Option Rat) (step : Rat) (values : List Rat) : Prop :=
  ∀ x ∈ values, Number.isSigned (placeOf step (binOffset start step) x) = true

theorem boundClauses_root (root : field.nestedPath = []) (start stop : Option Rat) :
    field.boundClauses start stop = bounds field.name start stop := by
  rw [Field.boundClauses, root]
  rfl

section Known

variable (known : ∃ s, ctx.schema index = .ok s ∧ s.aggregatedNumeric req.field = .ok field)
  (filters : ctx.compileFilter index req.filter (some req.field) req.filterSelf req.authFilter = .ok base)

include known filters

/-- A histogram over a store is what can be read of the store's, over the documents that pass the filters and the
clauses for the bounds. -/
theorem histogram_onStore_eq {items : List (Json Rat)} {bins : List (StatBucket Rat)}
    (written : ((Store.histogramOf
      (st.selected index (Query.conjunction? (base.toList ++ field.boundClauses start req.rangeEnd))) field.name step
        (binOffset start step)).get? "buckets").bind Json.items? = some items)
    (read : StatBucket.ofBins step items = .ok bins) :
    (req.histogram ctx index start step).onStore st = .value bins := by
  obtain ⟨s, schema, numeric⟩ := known
  have searched : req.histogramSearch ctx index start step =
      .ok (field.nestedPath, field.binSearch index base start req.rangeEnd step) :=
    histogramSearch_eq_ok_iff.mpr ⟨s, field, base, schema, numeric, filters, rfl⟩
  have result (docs : List (Json Rat)) :
      Store.resultOf docs (.histogram field.name step (start.map (Scalar.modulo · step))) =
        Store.histogramOf docs field.name step (binOffset start step) := rfl
  rw [histogram, searched, Field.binSearch, Dialogue.ofExcept_ok, Dialogue.value_bind, Dialogue.onStore_searchReading,
    Breakdown.unwrap_answer (by decide), result]
  simp only [bind, Except.bind, written, read]
  rfl

/-- Statistics over a store tell the extremes of all numbers of the documents that pass the filters and the
clauses for the bounds, and their number. -/
theorem exists_stats_onStore (valid : req.validate = .ok ()) {numbers : List Rat}
    (all : (st.selected index (Query.conjunction? (base.toList ++
      field.boundClauses req.rangeStart req.rangeEnd))).flatMap (numbersAt · field.name) = numbers)
    (few : numbers.length < Number.signedBound) :
    ∃ overall, (req.stats ctx index).onStore st = .value overall ∧ overall.min = numbers.min? ∧
      overall.max = numbers.max? ∧ overall.count = numbers.length := by
  subst all
  obtain ⟨s, schema, numeric⟩ := known
  have queried : req.boundedQuery ctx index field req.rangeStart =
      .ok (Query.conjunction? (base.toList ++ field.boundClauses req.rangeStart req.rangeEnd)) := by
    rw [boundedQuery, filters]
    rfl
  generalize Query.conjunction? (base.toList ++ field.boundClauses req.rangeStart req.rangeEnd) = query at *
  have searched : req.statsSearch ctx index = .ok (field.nestedPath,
      ⟨index, query, .breakdown (.wrap field.nestedPath statsName (.stats field.name))⟩) := by
    simp only [statsSearch, valid, schema, numeric, queried, bind, Except.bind]
    rfl
  obtain ⟨bucket, read, least, greatest⟩ := StatBucket.exists_ofJson_statsOf few
  have counted := StatBucket.count_of_ofJson read
  refine ⟨{ bucket with
    lower := req.rangeStart.or bucket.min
    upper := req.rangeEnd.or bucket.max }, ?_, least, greatest, counted⟩
  have result : Store.resultOf (st.selected index query) (.stats field.name) =
      Store.statsOf (st.selected index query) field.name := rfl
  rw [stats, searched, Dialogue.ofExcept_ok, Dialogue.value_bind, Dialogue.onStore_searchReading,
    Breakdown.unwrap_answer (by decide), result]
  simp only [bind, Except.bind, read]
  rfl

end Known

/-- A histogram over a store tiles the values between its start and the upper bound. -/
theorem exists_tiles_of_histogram (aggregates : req.Aggregates ctx index field base)
    (holds : st.HoldsSingly index field.name) (positive : 0 < step)
    (fits : FitsWords start step (st.valuesWithin index base field.name start req.rangeEnd)) :
    ∃ bins, (req.histogram ctx index start step).onStore st = .value bins ∧
      Tiles (start.getD 0) step (st.valuesWithin index base field.name start req.rangeEnd) bins := by
  have values := Store.flatMap_numbersAt_selected base start req.rangeEnd holds
  rw [← boundClauses_root aggregates.root] at values
  obtain ⟨items, bins, written, read, tiles⟩ := Store.exists_tiles_of_histogramOf
    (holds.single_selected _) (holds.few_selected _) (fun doc mem x hx =>
      fits x (values ▸ List.mem_flatMap.mpr ⟨doc, mem, hx⟩)) positive
  obtain ⟨m, moved⟩ := exists_offset start positive
  exact ⟨bins, histogram_onStore_eq aggregates.known aggregates.filters written read, values ▸ tiles.shift moved⟩

/-- Statistics over a store tell the extremes of the values between the bounds. -/
theorem exists_stats (aggregates : req.Aggregates ctx index field base)
    (holds : st.HoldsSingly index field.name) (valid : req.validate = .ok ()) :
    ∃ overall, (req.stats ctx index).onStore st = .value overall ∧
      overall.min = (st.valuesWithin index base field.name req.rangeStart req.rangeEnd).min? ∧
      overall.max = (st.valuesWithin index base field.name req.rangeStart req.rangeEnd).max? := by
  have values := Store.flatMap_numbersAt_selected base req.rangeStart req.rangeEnd holds
  rw [← boundClauses_root aggregates.root] at values
  obtain ⟨overall, run, least, greatest, -⟩ := exists_stats_onStore aggregates.known aggregates.filters valid values
    (values ▸ (Store.length_numbers_le (holds.single_selected _)).trans_lt (holds.few_selected _))
  exact ⟨overall, run, least, greatest⟩

/-- A request for bins of a positive width, or of a positive number, with bounds in order is valid. -/
theorem validate_eq_ok (ordered : req.Ordered) (one : req.rangeStep = none ∨ req.binCount = none)
    (width : ∀ step, req.rangeStep = some step → 0 < step) (number : ∀ n, req.binCount = some n → 0 < n) :
    req.validate = .ok () := by
  obtain ⟨name, filter, own, start, stop, step, bins, scope⟩ := req
  have reversed (s e : Rat) (hs : start = some s) (he : stop = some e) : Scalar.lt e s = false :=
    decide_eq_false (not_lt.mpr (ordered s e hs he))
  have positive (w : Rat) (hw : step = some w) : Scalar.lt (Scalar.ofInt 0) w = true :=
    decide_eq_true (width w hw)
  have counted (n : Int) (hn : bins = some n) : ¬n ≤ 0 := not_le.mpr (number n hn)
  -- each of the four is given or not, and what is given passes its check
  cases start <;> cases stop <;> cases step <;> cases bins <;>
    simp_all [validate, bind, Except.bind, pure, Except.pure]

/-- The bounds of a valid request are in order. -/
theorem ordered_of_validate (valid : req.validate = .ok ()) : req.Ordered := by
  obtain ⟨name, filter, own, start, stop, step, bins, scope⟩ := req
  rintro s e ⟨⟩ ⟨⟩
  by_contra reversed
  have refused : Scalar.lt e s = true := decide_eq_true (not_le.mp reversed)
  cases step <;> cases bins <;>
    simp_all [validate, bind, Except.bind] <;> split_ifs at valid

/-! ### Edges -/

section Edges

/-- Where a number of bins begins: at the lower bound, or at the least value; at zero if there is
neither. -/
def firstEdge (req : AggregationRequest Rat) (values : List Rat) : Rat :=
  (req.rangeStart.or values.min?).getD 0

/-- Where they end: at the upper bound, or one behind the greatest value; at zero if there is neither. -/
def lastEdge (req : AggregationRequest Rat) (values : List Rat) : Rat :=
  (req.rangeEnd.or (values.max?.map (· + 1))).getD 0

variable {values : List Rat} {x : Rat}

theorem firstEdge_le (within : isWithin req.rangeStart req.rangeEnd x = true) (hx : x ∈ values) :
    req.firstEdge values ≤ x := by
  rw [firstEdge]
  cases given : req.rangeStart with
  | some start => exact (isWithin_iff.mp within).1 start given
  | none =>
    obtain ⟨least, found⟩ := Option.isSome_iff_exists.mp (List.isSome_min?_of_mem hx)
    rw [found]
    exact (List.min?_eq_some_iff.mp found).2 x hx

theorem lt_lastEdge (within : isWithin req.rangeStart req.rangeEnd x = true) (hx : x ∈ values) :
    x < req.lastEdge values := by
  rw [lastEdge]
  cases given : req.rangeEnd with
  | some stop => exact (isWithin_iff.mp within).2 stop given
  | none =>
    obtain ⟨greatest, found⟩ := Option.isSome_iff_exists.mp (List.isSome_max?_of_mem hx)
    rw [found]
    have below := (List.max?_eq_some_iff.mp found).2 x hx
    exact below.trans_lt (lt_add_one greatest)

/-- Where there is a value, every part of the range is wide. -/
theorem part_pos {n : Int} (positive : 0 < n) (within : isWithin req.rangeStart req.rangeEnd x = true)
    (hx : x ∈ values) : 0 < (req.lastEdge values - req.firstEdge values) / n := by
  have counted : (0 : Rat) < n := Int.cast_pos.mpr positive
  have apart : req.firstEdge values < req.lastEdge values :=
    (firstEdge_le within hx).trans_lt (lt_lastEdge within hx)
  exact div_pos (sub_pos.mpr apart) counted

/-- All parts together reach from the first edge to the last one. -/
theorem firstEdge_add_parts {n : Int} (positive : 0 < n) :
    req.firstEdge values + n * ((req.lastEdge values - req.firstEdge values) / n) =
      req.lastEdge values := by
  have counted : (n : Rat) ≠ 0 := Int.cast_ne_zero.mpr positive.ne'
  rw [mul_div_cancel₀ _ counted, add_sub_cancel]

theorem lt_firstEdge_add_parts {n : Int} (positive : 0 < n)
    (within : isWithin req.rangeStart req.rangeEnd x = true) (hx : x ∈ values) :
    x < req.firstEdge values + n * ((req.lastEdge values - req.firstEdge values) / n) := by
  rw [firstEdge_add_parts positive]
  exact lt_lastEdge within hx

/-- Bins that tile the range by parts lie inside it. -/
theorem inside_of_tiles {n : Int} (positive : 0 < n)
    (within : ∀ x ∈ values, isWithin req.rangeStart req.rangeEnd x = true) {bins : List (StatBucket Rat)}
    (tiles : Tiles (req.firstEdge values) ((req.lastEdge values - req.firstEdge values) / n) values bins)
    {b : StatBucket Rat} (hb : b ∈ bins) :
    ∃ lower upper, b.lower = some lower ∧ b.upper = some upper ∧ req.firstEdge values ≤ lower ∧
      upper ≤ req.lastEdge values := by
  obtain ⟨lower, upper, begins, ends, ⟨x, hx, -⟩, -⟩ := tiles.between b hb
  have wide := part_pos positive (within x hx) hx
  refine ⟨lower, upper, begins, ends, ?_, ?_⟩
  · exact tiles.origin_le_lower wide hb (fun y hy => firstEdge_le (within y hy) hy) begins
  · have edge := tiles.upper_le wide hb (fun y hy => lt_firstEdge_add_parts positive (within y hy) hy) ends
    exact edge.trans_eq (firstEdge_add_parts positive)

/-- There are no more bins than parts. -/
theorem length_le_of_tiles {n : Int} (positive : 0 < n)
    (within : ∀ x ∈ values, isWithin req.rangeStart req.rangeEnd x = true) {bins : List (StatBucket Rat)}
    (tiles : Tiles (req.firstEdge values) ((req.lastEdge values - req.firstEdge values) / n) values bins) :
    (bins.length : Int) ≤ n := by
  cases bins with
  | nil => exact positive.le
  | cons b rest =>
    obtain ⟨-, -, -, -, ⟨x, hx, -⟩, -⟩ := tiles.between b List.mem_cons_self
    exact tiles.length_le (part_pos positive (within x hx) hx) positive.le
      (fun y hy => firstEdge_le (within y hy) hy)
      fun y hy => lt_firstEdge_add_parts positive (within y hy) hy

/-- Starting from the first edge leaves no value out. -/
theorem valuesWithin_firstEdge {name : String}
    (all : st.valuesWithin index base name req.rangeStart req.rangeEnd = values) :
    st.valuesWithin index base name (some (req.firstEdge values)) req.rangeEnd = values := by
  rw [← all]
  refine List.filter_congr fun x hx => Bool.eq_iff_iff.mpr ⟨fun within => ?_, fun within => ?_⟩
  · obtain ⟨above, below⟩ := isWithin_iff.mp within
    refine isWithin_iff.mpr ⟨fun start given => ?_, below⟩
    have edge := above _ rfl
    rw [firstEdge, given] at edge
    exact edge
  · refine isWithin_iff.mpr ⟨fun start same => ?_, (isWithin_iff.mp within).2⟩
    cases same
    exact firstEdge_le within (List.mem_filter.mpr ⟨hx, within⟩)

/-- The layout for a number of bins divides the range between both edges, unless there is nothing in
it. -/
theorem derivedPlan_eq {overall : StatBucket Rat} {n : Int} (positive : 0 < n)
    (least : overall.min = values.min?) (greatest : overall.max = values.max?)
    (within : ∀ x ∈ values, isWithin req.rangeStart req.rangeEnd x = true) :
    (req.derivedPlan n overall = .empty ∧ values = []) ∨
      (0 < (req.lastEdge values - req.firstEdge values) / n ∧ req.derivedPlan n overall =
        .histogram (some (req.firstEdge values)) ((req.lastEdge values - req.firstEdge values) / n)) := by
  have stop : req.rangeEnd.or (overall.max.map (· + Scalar.ofInt 1)) =
      req.rangeEnd.or (values.max?.map (· + 1)) := by
    rw [greatest]
    rfl
  rw [derivedPlan, least, stop]
  cases first : req.rangeStart.or values.min? with
  | none => exact .inl ⟨rfl, List.min?_eq_none_iff.mp (Option.or_eq_none_iff.mp first).2⟩
  | some start =>
    cases last : req.rangeEnd.or (values.max?.map (· + 1)) with
    | none =>
      have missing := (Option.or_eq_none_iff.mp last).2
      exact .inl ⟨rfl, List.max?_eq_none_iff.mp (Option.map_eq_none_iff.mp missing)⟩
    | some stop =>
      have begins : req.firstEdge values = start := by rw [firstEdge, first, Option.getD_some]
      have ends : req.lastEdge values = stop := by rw [lastEdge, last, Option.getD_some]
      have width : Scalar.le ((stop - start) / Scalar.ofInt n) (Scalar.ofInt 0) =
          decide ((stop - start) / n ≤ 0) := rfl
      simp only [begins, ends, width, decide_eq_true_iff]
      split_ifs with degenerate
      · -- a value would lie between edges that are not apart
        refine .inl ⟨rfl, List.eq_nil_iff_forall_not_mem.mpr fun x hx => ?_⟩
        have wide := part_pos positive (within x hx) hx
        rw [begins, ends] at wide
        exact absurd wide (not_lt.mpr degenerate)
      · exact .inr ⟨not_le.mp degenerate, rfl⟩

end Edges

/-! ### Both kinds of histograms -/

/-- A request for bins of a positive width needs no search to lay them out. -/
theorem histogramByStep_eq (ordered : req.Ordered) (positive : 0 < step) :
    req.histogramByStep ctx index step = req.histogram ctx index req.rangeStart step := by
  have valid : { req with rangeStep := some step, binCount := none }.validate = .ok () := by
    refine validate_eq_ok ordered (.inr rfl) ?_ ?_
    · rintro _ ⟨⟩
      exact positive
    · rintro _ ⟨⟩
  rw [histogramByStep, numeric, plan, valid]
  rfl

/-- Bins of a given width tile the range from its lower bound, or from zero, on. -/
theorem exists_tiles_of_histogramByStep (aggregates : req.Aggregates ctx index field base)
    (holds : st.HoldsSingly index field.name) (ordered : req.Ordered) (positive : 0 < step)
    (fits : FitsWords req.rangeStart step
      (st.valuesWithin index base field.name req.rangeStart req.rangeEnd)) :
    ∃ bins, (req.histogramByStep ctx index step).onStore st = .value bins ∧
      Tiles (req.rangeStart.getD 0) step
        (st.valuesWithin index base field.name req.rangeStart req.rangeEnd) bins := by
  rw [histogramByStep_eq ordered positive]
  exact exists_tiles_of_histogram aggregates holds positive fits

/-- Bins of a given number tile the range from its first edge on, each as wide as its part of the
range; there are none where nothing lies in the range. -/
theorem exists_tiles_of_histogramByCount (aggregates : req.Aggregates ctx index field base)
    (holds : st.HoldsSingly index field.name) (ordered : req.Ordered) {n : Int} (positive : 0 < n)
    {values : List Rat} (all : st.valuesWithin index base field.name req.rangeStart req.rangeEnd = values)
    (fits : FitsWords (some (req.firstEdge values)) ((req.lastEdge values - req.firstEdge values) / n)
      values) :
    ∃ bins, (req.histogramByCount ctx index n).onStore st = .value bins ∧
      Tiles (req.firstEdge values) ((req.lastEdge values - req.firstEdge values) / n) values bins := by
  let counted : AggregationRequest Rat := { req with rangeStep := none, binCount := some n }
  have valid : counted.validate = .ok () := by
    refine validate_eq_ok ordered (.inl rfl) ?_ ?_
    · rintro _ ⟨⟩
    · rintro _ ⟨⟩
      exact positive
  -- the statistics that lay out the bins are taken over the same values
  have surveys : counted.Aggregates ctx index field base :=
    ⟨aggregates.known, aggregates.root, aggregates.filters⟩
  obtain ⟨overall, surveyed, least, greatest⟩ := exists_stats surveys holds valid
  have within (x : Rat) (hx : x ∈ values) : isWithin req.rangeStart req.rangeEnd x = true :=
    (Store.mem_valuesWithin.mp (all ▸ hx)).2
  have laid : (req.histogramByCount ctx index n).onStore st =
      (counted.runPlan ctx index (req.derivedPlan n overall)).onStore st := by
    rw [histogramByCount, numeric, plan, valid, Dialogue.ofExcept_ok, Dialogue.value_bind]
    simp only [Dialogue.onStore_bind]
    rw [surveyed]
    rfl
  rw [laid]
  rcases derivedPlan_eq positive (all ▸ least) (all ▸ greatest) within with
    ⟨empty, nothing⟩ | ⟨apart, planned⟩
  · rw [empty]
    exact ⟨[], rfl, nothing ▸ .nil⟩
  · have same : st.valuesWithin index base field.name (some (req.firstEdge values)) counted.rangeEnd =
        values := valuesWithin_firstEdge all
    obtain ⟨bins, run, tiles⟩ := exists_tiles_of_histogram surveys holds apart (by rw [same]; exact fits)
    rw [same] at tiles
    rw [planned]
    exact ⟨bins, run, tiles⟩

end AggregationRequest

/-- **Histograms tile the range.** A valid request aggregates a field outside nested objects, of which
every document holds one number at most. Bins of any width and any number of bins are answered with.
Those of one width lie next to each other, whole widths from the lower bound, or from zero, and none
begins before the lower bound; those of one number lie between the first and the last edge, each as wide
as its part of the range, and are no more than are asked for. Either way every value in range lies in
exactly one bin, and the counts add up to the documents with a value in range; a number of bins is
answered without one only where there are none. -/
theorem histograms_tile_range {ctx : Context} {index : String} {req : AggregationRequest Rat}
    {st : Store Rat} {field : Field} {base : Option (Query Rat)}
    (aggregates : req.Aggregates ctx index field base) (holds : st.HoldsSingly index field.name)
    (ordered : req.Ordered) :
    let values := st.valuesWithin index base field.name req.rangeStart req.rangeEnd
    let holders := st.holdersWithin index base field.name req.rangeStart req.rangeEnd
    (∀ step, 0 < step → AggregationRequest.FitsWords req.rangeStart step values →
      ∃ bins, (req.histogramByStep ctx index step).onStore st = .value bins ∧
        Tiles (req.rangeStart.getD 0) step values bins ∧
        (∀ b ∈ bins, ∀ start, req.rangeStart = some start → ∃ lower, b.lower = some lower ∧ start ≤ lower) ∧
        (bins.map (·.count)).sum = holders.length) ∧
    ∀ n : Int, 0 < n →
      let first := req.firstEdge values
      let last := req.lastEdge values
      AggregationRequest.FitsWords (some first) ((last - first) / n) values →
        ∃ bins, (req.histogramByCount ctx index n).onStore st = .value bins ∧
          Tiles first ((last - first) / n) values bins ∧
          (∀ b ∈ bins, ∃ lower upper, b.lower = some lower ∧ b.upper = some upper ∧ first ≤ lower ∧
            upper ≤ last) ∧
          (bins.map (·.count)).sum = holders.length ∧ (bins.length : Int) ≤ n ∧ (bins = [] ↔ holders = []) := by
  intro values holders
  have within (x : Rat) (hx : x ∈ values) : isWithin req.rangeStart req.rangeEnd x = true :=
    (Store.mem_valuesWithin.mp hx).2
  have counted : values.length = holders.length := Store.length_valuesWithin holds
  constructor
  · intro step positive fits
    obtain ⟨bins, run, tiles⟩ :=
      AggregationRequest.exists_tiles_of_histogramByStep aggregates holds ordered positive fits
    refine ⟨bins, run, tiles, fun b hb start given => ?_, counted ▸ tiles.sum_count⟩
    have origin : req.rangeStart.getD 0 = start := by rw [given, Option.getD_some]
    have above (x : Rat) (hx : x ∈ values) : req.rangeStart.getD 0 ≤ x :=
      origin ▸ (isWithin_iff.mp (within x hx)).1 start given
    obtain ⟨lower, -, begins, -⟩ := tiles.between b hb
    exact ⟨lower, begins, origin ▸ tiles.origin_le_lower positive hb above begins⟩
  · intro n positive first last fits
    obtain ⟨bins, run, tiles⟩ :=
      AggregationRequest.exists_tiles_of_histogramByCount aggregates holds ordered positive rfl fits
    refine ⟨bins, run, tiles, fun b hb => AggregationRequest.inside_of_tiles positive within tiles hb,
      counted ▸ tiles.sum_count, AggregationRequest.length_le_of_tiles positive within tiles, ?_⟩
    rw [tiles.eq_nil_iff, ← List.length_eq_zero_iff, ← List.length_eq_zero_iff]
    exact Eq.congr_left counted

/-- The ages of subjects below forty. -/
def Sample.agesBelowForty : AggregationRequest Rat := ⟨"age", none, true, some 0, some 40, none, none, none⟩

/-- The ages of two subjects lie in three bins of fifteen years, and in three of four parts of forty
years. -/
theorem ages_tile_range :
    (∃ bins, (Sample.agesBelowForty.histogramByStep (Sample.context .regular) "subject" 15).onStore
      Sample.mixed = .value bins ∧ Tiles 0 15 [10, 30] bins) ∧
    ∃ bins, (Sample.agesBelowForty.histogramByCount (Sample.context .regular) "subject" 4).onStore
      Sample.mixed = .value bins ∧ Tiles 0 10 [10, 30] bins ∧ (bins.length : Int) ≤ 4 := by
  have aggregates : Sample.agesBelowForty.Aggregates (Sample.context .regular) "subject"
      ⟨"age", .numeric, [], false, false⟩ none := ⟨⟨_, rfl, rfl⟩, rfl, rfl⟩
  have holds : Sample.mixed.HoldsSingly "subject" "age" := ⟨by decide, by decide⟩
  have ordered : Sample.agesBelowForty.Ordered := by
    rintro start stop ⟨⟩ ⟨⟩
    decide
  have values : Sample.mixed.valuesWithin "subject" none "age" Sample.agesBelowForty.rangeStart
      Sample.agesBelowForty.rangeEnd = [10, 30] := by with_unfolding_all rfl
  have fitsStep : AggregationRequest.FitsWords (some 0) 15 [10, 30] := by
    unfold AggregationRequest.FitsWords
    decide +kernel
  have fitsCount : AggregationRequest.FitsWords (some 0) 10 [10, 30] := by
    unfold AggregationRequest.FitsWords
    decide +kernel
  have width : ((40 - 0) / (4 : Int) : Rat) = 10 := by norm_num
  obtain ⟨byStep, byCount⟩ := histograms_tile_range aggregates holds ordered
  rw [values] at byStep byCount
  obtain ⟨bins, run, tiles, -⟩ := byStep 15 (by decide) fitsStep
  obtain ⟨parts, runParts, tilesParts, -, -, few, -⟩ := byCount 4 (by decide) (width.symm ▸ fitsCount)
  exact ⟨⟨bins, run, tiles⟩, parts, runParts, width ▸ tilesParts, few⟩

end TieredSearch
