import Mathlib.Algebra.BigOperators.Ring.Finset
import Mathlib.Data.List.Chain
import Mathlib.Data.List.Flatten
import Mathlib.Data.List.Nodup
import Mathlib.Data.Rat.Floor
import Mathlib.Tactic.Linarith
import TieredSearch.Number.Rational
import TieredSearch.Proofs.Aggregation.Numeric

/-!
# Bins in exact arithmetic

A store numbers its bins from an offset: the bin of a number is the whole part of its distance from
the offset, counted in widths. `Tiles` says of bins that they lie next to each other, that every value
lies in exactly one of them, and that each counts the values in it. Where a document holds one number
at most, what is read off the bins of a store tiles the numbers of the documents
(`Store.exists_tiles_of_histogramOf`).

What follows from tiling is said of values that lie between two bounds: no bin begins before the lower
one (`Tiles.origin_le_lower`), none ends behind an upper one a whole number of widths away
(`Tiles.upper_le`), and there are no more bins than widths between both (`Tiles.length_le`).
-/

namespace TieredSearch

open Document (numbersAt)

/-! ### Exact numbers -/

namespace Scalar

/-- Within the words, nothing but the fraction is lost. -/
theorem floor_rat {x : Rat} (fits : Number.isSigned ⌊x⌋ = true) : Scalar.floor x = ⌊x⌋ :=
  Number.clampSigned_of_isSigned fits

/-- The remainder of a division by a positive number. -/
theorem modulo_rat (x : Rat) {y : Rat} (positive : 0 < y) :
    Scalar.modulo x y = x - ⌊x / y⌋ * y := by
  have same : Scalar.modulo x y = x - ⌊x / y.abs⌋ * y.abs := rfl
  rw [same, Rat.abs_of_nonneg positive.le]

theorem least_eq_min : (least : Rat → Rat → Rat) = min := by
  funext x y
  have below : lt x y = decide (x < y) := rfl
  simp only [least, below, decide_eq_true_iff, min_def_lt]

theorem greatest_eq_max : (greatest : Rat → Rat → Rat) = max := by
  funext x y
  have above : lt y x = decide (y < x) := rfl
  simp only [greatest, above, decide_eq_true_iff, max_comm x, max_def_lt]

end Scalar

/-- The number of the bin that a number lies in. -/
def placeOf (width offset x : Rat) : Int := ⌊(x - offset) / width⌋

/-- A number lies in the bin with a number if it lies between the edges of that bin. -/
theorem placeOf_eq_iff {width : Rat} (positive : 0 < width) {offset x : Rat} {k : Int} :
    placeOf width offset x = k ↔ k * width + offset ≤ x ∧ x < k * width + offset + width := by
  rw [placeOf, Int.floor_eq_iff, le_div_iff₀ positive, div_lt_iff₀ positive, add_mul, one_mul]
  constructor
  · rintro ⟨above, below⟩
    constructor <;> linarith
  · rintro ⟨above, below⟩
    constructor <;> linarith

namespace StatBucket

/-- Whether a number lies from the lower bound of a bucket on, before its upper bound. -/
def covers (b : StatBucket Rat) (x : Rat) : Bool :=
  match b.lower, b.upper with
  | some lower, some upper => lower ≤ x && x < upper
  | _, _ => false

/-- A bucket with the edges of a bin covers the numbers that lie in the bin. -/
theorem covers_eq_decide {width offset : Rat} (positive : 0 < width) {k : Int} {b : StatBucket Rat}
    (lower : b.lower = some (k * width + offset)) (upper : b.upper = some (k * width + offset + width)) (x : Rat) :
    b.covers x = decide (placeOf width offset x = k) := by
  rw [covers, lower, upper, Bool.eq_iff_iff]
  simp [placeOf_eq_iff positive]

/-- The bucket is the bin with a number, and counts the values in it. -/
structure IsBin (width offset : Rat) (values : List Rat) (k : Int) (b : StatBucket Rat) : Prop where
  /-- The bin begins that number of widths from the offset. -/
  lower : b.lower = some (k * width + offset)
  /-- It ends one width later. -/
  upper : b.upper = some (k * width + offset + width)
  /-- It counts the values with its number. -/
  count : b.count = values.countP fun x => placeOf width offset x = k

theorem IsBin.covers_eq {width offset : Rat} (positive : 0 < width) {values : List Rat} {k : Int}
    {b : StatBucket Rat} (h : b.IsBin width offset values k) (x : Rat) :
    b.covers x = decide (placeOf width offset x = k) :=
  covers_eq_decide positive h.lower h.upper x

end StatBucket

/-! ### Tilings -/

/-- Bins of one width that lie next to each other, a whole number of widths from an origin, so that
every value lies in exactly one of them. -/
structure Tiles (origin width : Rat) (values : List Rat) (bins : List (StatBucket Rat)) : Prop where
  /-- The edges lie a whole number of widths from the origin, and one width apart. -/
  edges : ∀ b ∈ bins, ∃ k : Int,
    b.lower = some (origin + k * width) ∧ b.upper = some (origin + k * width + width)
  /-- Each bin ends where the next one begins. -/
  contiguous : bins.IsChain fun b b' => b.upper = b'.lower
  /-- Every value lies in exactly one bin. -/
  covers : ∀ x ∈ values, bins.countP (·.covers x) = 1
  /-- Each bin counts the values in it. -/
  counts : ∀ b ∈ bins, b.count = values.countP b.covers
  /-- No bin lies apart from all values: some value lies before its end, and some not before its
  beginning. -/
  between : ∀ b ∈ bins, ∃ lower upper, b.lower = some lower ∧ b.upper = some upper ∧
    (∃ x ∈ values, x < upper) ∧ ∃ y ∈ values, lower ≤ y

namespace Store

theorem mem_interval {low high k : Int} : k ∈ interval low high ↔ low ≤ k ∧ k ≤ high := by
  rw [interval, List.mem_map]
  constructor
  · rintro ⟨i, hi, rfl⟩
    have := List.mem_range.mp hi
    omega
  · rintro ⟨above, below⟩
    exact ⟨(k - low).toNat, List.mem_range.mpr (by omega), by omega⟩

theorem nodup_interval (low high : Int) : (interval low high).Nodup :=
  List.nodup_range.map fun i j (same : low + (i : Int) = low + (j : Int)) => by omega

/-- The whole numbers of an interval follow one after the other. -/
theorem isChain_interval (low high : Int) : (interval low high).IsChain fun k k' => k' = k + 1 := by
  rw [interval, List.isChain_map, List.isChain_range]
  intro i _
  push_cast
  omega

end Store

namespace Tiles

variable {origin width offset : Rat} {values : List Rat} {bins : List (StatBucket Rat)}

theorem nil : Tiles origin width [] [] where
  edges := by simp
  contiguous := .nil
  covers := by simp
  counts := by simp
  between := by simp

/-- The bins from the number of one value to the number of another one tile the values, if all their
numbers lie between. -/
theorem of_isBin (positive : 0 < width) {bucket : Int → StatBucket Rat}
    (bin : ∀ k, (bucket k).IsBin width offset values k) {low high : Int}
    (least : ∃ x ∈ values, placeOf width offset x = low)
    (greatest : ∃ y ∈ values, placeOf width offset y = high)
    (within : ∀ x ∈ values, low ≤ placeOf width offset x ∧ placeOf width offset x ≤ high) :
    Tiles offset width values ((Store.interval low high).map bucket) where
  edges := by
    intro b hb
    obtain ⟨k, -, rfl⟩ := List.mem_map.mp hb
    refine ⟨k, ?_, ?_⟩
    · rw [(bin k).lower, add_comm]
    · rw [(bin k).upper, add_comm _ offset]
  contiguous := by
    rw [List.isChain_map]
    refine (Store.isChain_interval low high).imp fun k k' next => ?_
    rw [(bin k).upper, (bin k').lower, next]
    push_cast
    ring_nf
  covers := by
    intro x hx
    have numbered : (fun k => (bucket k).covers x) = fun k => decide (placeOf width offset x = k) :=
      funext fun k => (bin k).covers_eq positive x
    have once := List.count_eq_one_of_mem (Store.nodup_interval low high)
      (Store.mem_interval.mpr (within x hx))
    rw [List.countP_map, Function.comp_def, numbered, ← once, List.count]
    refine List.countP_congr fun k _ => ?_
    rw [decide_eq_true_iff, beq_iff_eq, eq_comm]
  counts := by
    intro b hb
    obtain ⟨k, -, rfl⟩ := List.mem_map.mp hb
    rw [(bin k).count]
    refine congrArg Nat.cast (List.countP_congr fun x _ => ?_)
    rw [(bin k).covers_eq positive]
  between := by
    intro b hb
    obtain ⟨k, hk, rfl⟩ := List.mem_map.mp hb
    obtain ⟨above, below⟩ := Store.mem_interval.mp hk
    obtain ⟨x, hx, first⟩ := least
    obtain ⟨y, hy, last⟩ := greatest
    refine ⟨_, _, (bin k).lower, (bin k).upper, ⟨x, hx, ?_⟩, y, hy, ?_⟩
    · have before := ((placeOf_eq_iff positive).mp first).2
      have edge : (low : Rat) * width ≤ k * width :=
        mul_le_mul_of_nonneg_right (Int.cast_le.mpr above) positive.le
      linarith
    · have behind := ((placeOf_eq_iff positive).mp last).1
      have edge : (k : Rat) * width ≤ high * width :=
        mul_le_mul_of_nonneg_right (Int.cast_le.mpr below) positive.le
      linarith

/-- The origin may be moved by whole widths. -/
theorem shift (tiles : Tiles offset width values bins) {m : Int} (moved : origin = offset + m * width) :
    Tiles origin width values bins where
  edges := by
    intro b hb
    obtain ⟨k, lower, upper⟩ := tiles.edges b hb
    have edge : origin + ((k - m : Int) : Rat) * width = offset + k * width := by
      rw [moved]
      push_cast
      ring
    exact ⟨k - m, by rw [edge, lower], by rw [edge, upper]⟩
  contiguous := tiles.contiguous
  covers := tiles.covers
  counts := tiles.counts
  between := tiles.between

/-! ### What follows -/

omit origin width offset in
/-- If every value lies in one bin, the bins count each value once. -/
theorem sum_countP (covers : ∀ x ∈ values, bins.countP (·.covers x) = 1) :
    (bins.map fun b => values.countP b.covers).sum = values.length := by
  induction values with
  | nil => simp
  | cons x values ih =>
    obtain ⟨here, later⟩ := List.forall_mem_cons.mp covers
    have one (bins : List (StatBucket Rat)) :
        (bins.map fun b => if b.covers x then 1 else 0).sum = bins.countP (·.covers x) := by
      induction bins with
      | nil => rfl
      | cons b bins ih => rw [List.map_cons, List.sum_cons, ih, List.countP_cons, add_comm]
    simp only [List.countP_cons]
    rw [List.sum_map_add, ih later, one, here, List.length_cons]

/-- Bins that lie next to each other end as many widths behind the first beginning as there are bins. -/
theorem exists_last_upper {b : StatBucket Rat} {rest : List (StatBucket Rat)} {lower : Rat}
    (contiguous : (b :: rest).IsChain fun b b' => b.upper = b'.lower)
    (widths : ∀ b' ∈ b :: rest, ∀ lower, b'.lower = some lower → b'.upper = some (lower + width))
    (begins : b.lower = some lower) :
    ∃ last ∈ b :: rest, last.upper = some (lower + (rest.length + 1) * width) := by
  obtain ⟨here, later⟩ := List.forall_mem_cons.mp widths
  induction rest generalizing b lower with
  | nil => exact ⟨b, List.mem_cons_self, by simpa using here lower begins⟩
  | cons b' rest ih =>
    obtain ⟨next, contiguous⟩ := List.isChain_cons_cons.mp contiguous
    obtain ⟨here', later'⟩ := List.forall_mem_cons.mp later
    obtain ⟨last, hlast, ends⟩ := ih contiguous later (next ▸ here lower begins) here' later'
    refine ⟨last, List.mem_cons_of_mem _ hlast, ends.trans (congrArg some ?_)⟩
    push_cast [List.length_cons]
    ring

section Consequences

variable (tiles : Tiles origin width values bins)

include tiles

/-- The bins count every value once. -/
theorem sum_count : (bins.map (·.count)).sum = values.length := by
  have counts : bins.map (·.count) = (bins.map fun b => values.countP b.covers).map Nat.cast := by
    rw [List.map_map]
    exact List.map_congr_left tiles.counts
  rw [counts, ← Nat.cast_list_sum, sum_countP tiles.covers]

/-- Every bin is one width wide. -/
theorem upper_of_lower {b : StatBucket Rat} (hb : b ∈ bins) {lower : Rat} (begins : b.lower = some lower) :
    b.upper = some (lower + width) := by
  obtain ⟨k, edge, ends⟩ := tiles.edges b hb
  cases begins.symm.trans edge
  exact ends

/-- There are bins where there are values. -/
theorem eq_nil_iff : bins = [] ↔ values = [] := by
  constructor
  · intro none
    refine List.eq_nil_iff_forall_not_mem.mpr fun x hx => ?_
    have one := tiles.covers x hx
    rw [none] at one
    cases one
  · intro none
    refine List.eq_nil_iff_forall_not_mem.mpr fun b hb => ?_
    obtain ⟨-, -, -, -, ⟨x, hx, -⟩, -⟩ := tiles.between b hb
    rw [none] at hx
    cases hx

variable (positive : 0 < width) {b : StatBucket Rat} (hb : b ∈ bins)

include positive hb

/-- Where no value lies before the origin, no bin begins before it. -/
theorem origin_le_lower (above : ∀ x ∈ values, origin ≤ x) {lower : Rat} (begins : b.lower = some lower) :
    origin ≤ lower := by
  obtain ⟨k, edge, edge'⟩ := tiles.edges b hb
  obtain ⟨-, upper, -, ends, ⟨x, hx, before⟩, -⟩ := tiles.between b hb
  cases begins.symm.trans edge
  cases ends.symm.trans edge'
  -- the bin ends behind the origin, so that it does not begin before it
  have behind : 0 < (k + 1) * width := by linarith [above x hx]
  have first : 0 ≤ k := by
    have counted : (0 : Rat) < ((k + 1 : Int) : Rat) := by
      push_cast
      exact pos_of_mul_pos_left behind positive.le
    exact Int.lt_add_one_iff.mp (Int.cast_pos.mp counted)
  linarith [mul_nonneg (Int.cast_nonneg first : (0 : Rat) ≤ k) positive.le]

/-- Where every value lies before the end of a whole number of widths, no bin ends behind it. -/
theorem upper_le {n : Int} (below : ∀ x ∈ values, x < origin + n * width) {upper : Rat}
    (ends : b.upper = some upper) : upper ≤ origin + n * width := by
  obtain ⟨k, edge, edge'⟩ := tiles.edges b hb
  obtain ⟨lower, -, begins, -, -, y, hy, behind⟩ := tiles.between b hb
  cases begins.symm.trans edge
  cases ends.symm.trans edge'
  -- the bin begins before the end, so that it does not end behind it
  have before : (k : Rat) * width < n * width := by linarith [below y hy]
  have last : k + 1 ≤ n := Int.cast_lt.mp (lt_of_mul_lt_mul_right before positive.le)
  have edges : ((k + 1 : Int) : Rat) * width ≤ n * width :=
    mul_le_mul_of_nonneg_right (Int.cast_le.mpr last) positive.le
  push_cast at edges
  linarith

omit hb in
/-- Where all values lie within a whole number of widths from the origin, there are no more bins. -/
theorem length_le {n : Int} (some : 0 ≤ n) (above : ∀ x ∈ values, origin ≤ x)
    (below : ∀ x ∈ values, x < origin + n * width) : (bins.length : Int) ≤ n := by
  cases bins with
  | nil => exact some
  | cons b rest =>
    obtain ⟨k, begins, -⟩ := tiles.edges b List.mem_cons_self
    obtain ⟨last, hlast, ends⟩ :=
      exists_last_upper tiles.contiguous (fun _ hb _ => tiles.upper_of_lower hb) begins
    have first := tiles.origin_le_lower positive List.mem_cons_self above begins
    have fits := tiles.upper_le positive hlast below ends
    have widths : (((b :: rest).length : Int) : Rat) * width ≤ n * width := by
      push_cast [List.length_cons]
      linarith
    exact Int.cast_le.mp (le_of_mul_le_mul_right widths positive)

end Consequences

end Tiles

/-! ### Bins of a store -/

/-- A number of things within the words is read as it is. -/
theorem Json.int?_natCast (R : Type) {n : Nat} (few : n < Number.signedBound) :
    (Json.int n : Json R).int? = some (n : Int) := by
  rw [int?, if_pos (Number.isSigned_iff.mpr (by omega))]

namespace StatBucket

/-- Statistics can be read if their count can be. -/
theorem exists_ofJson {n : Int} {least greatest avg sum : Rat}
    (counted : (Json.int n : Json Rat).int? = some n) :
    ∃ b : StatBucket Rat, ofJson (.obj [("count", .int n), ("min", .real least), ("max", .real greatest),
      ("avg", .real avg), ("sum", .real sum)]) = .ok b ∧ b.min = some least ∧ b.max = some greatest := by
  have found : (Json.obj [("count", .int n), ("min", .real least), ("max", .real greatest),
      ("avg", .real avg), ("sum", .real sum)]).get? "count" = some (.int n) := rfl
  rw [ofJson, found, Option.bind_some, counted]
  exact ⟨_, rfl, rfl, rfl⟩

/-- Statistics of a store can be read if the numbers can be counted within the words. -/
theorem exists_ofJson_statsOf {docs : List (Json Rat)} {field : String}
    (few : (docs.flatMap (numbersAt · field)).length < Number.signedBound) :
    ∃ b : StatBucket Rat, ofJson (Store.statsOf docs field) = .ok b ∧
      b.min = (docs.flatMap (numbersAt · field)).min? ∧ b.max = (docs.flatMap (numbersAt · field)).max? := by
  rw [Store.statsOf]
  split
  next none => exact ⟨_, rfl, by rw [none]; rfl, by rw [none]; rfl⟩
  next x xs found =>
    rw [found] at few ⊢
    rw [Scalar.least_eq_min, Scalar.greatest_eq_max, List.min?_cons', List.max?_cons']
    exact exists_ofJson (Json.int?_natCast Rat few)

/-- A bin can be read if its statistics and its count can be. -/
theorem ofBin_eq {width key : Rat} {stats : Json Rat} {n : Int} {overall : StatBucket Rat}
    (read : ofJson stats = .ok overall) (counted : (Json.int n : Json Rat).int? = some n) :
    ofBin width (.obj [(binStatsName, stats), ("key", .real key), ("doc_count", .int n)]) =
      .ok { overall with lower := some key, upper := some (key + width), count := n } := by
  have documents : (Json.obj [(binStatsName, stats), ("key", .real key), ("doc_count", .int n)]).get?
      "doc_count" = some (.int n) := rfl
  have found : (Json.obj [(binStatsName, stats), ("key", .real key), ("doc_count", .int n)]).get?
      binStatsName = some stats := rfl
  have edge : ((Json.obj [(binStatsName, stats), ("key", .real key), ("doc_count", .int n)]).get?
      "key").bind Json.number? = some key := rfl
  simp only [ofBin, documents, found, edge, Option.bind_some, counted, read]
  rfl

/-- What can be read one by one can be read as a whole. -/
theorem ofBins_map {width : Rat} {bin : Int → Json Rat} {bucket : Int → StatBucket Rat}
    (read : ∀ k, ofBin width (bin k) = .ok (bucket k)) (ks : List Int) :
    ofBins width (ks.map bin) = .ok (ks.map bucket) := by
  induction ks with
  | nil => rfl
  | cons k ks ih =>
    rw [List.map_cons, ofBins, read, ih]
    rfl

end StatBucket

namespace Store

variable {docs : List (Json Rat)} {field : String} {width offset : Rat}

/-- A bin of the store can be read, and counts the documents that fall into it. -/
theorem exists_bucket (width offset : Rat) (few : docs.length < Number.signedBound)
    (numbers : (docs.flatMap (numbersAt · field)).length < Number.signedBound) (k : Int) :
    ∃ b, StatBucket.ofBin width (bin field width offset
      (docs.map fun doc => (doc, binsOf field width offset doc)) k) = .ok b ∧
        b.lower = some (k * width + offset) ∧ b.upper = some (k * width + offset + width) ∧
        b.count = ((docs.filter fun doc => (binsOf field width offset doc).contains k).length : Nat) := by
  let kept := docs.filter fun doc => (binsOf field width offset doc).contains k
  have inside : ((docs.map fun doc => (doc, binsOf field width offset doc)).filter fun (_, bins) =>
      bins.contains k).map Prod.fst = kept := by
    rw [List.filter_map, List.map_map]
    exact List.map_id _
  have written : bin field width offset (docs.map fun doc => (doc, binsOf field width offset doc)) k =
      .obj [(binStatsName, statsOf kept field), ("key", .real (k * width + offset)),
        ("doc_count", .int kept.length)] := by
    rw [bin, inside]
    rfl
  have documents : kept.length < Number.signedBound := (List.length_filter_le _ _).trans_lt few
  have counted : (kept.flatMap (numbersAt · field)).length < Number.signedBound :=
    (List.filter_sublist.flatMap _).length_le.trans_lt numbers
  obtain ⟨overall, read, -⟩ := StatBucket.exists_ofJson_statsOf counted
  refine ⟨{ overall with
    lower := some (k * width + offset)
    upper := some (k * width + offset + width)
    count := kept.length }, ?_, rfl, rfl, rfl⟩
  rw [written]
  exact StatBucket.ofBin_eq read (Json.int?_natCast Rat documents)

/-- A histogram of the store can be read, whatever the documents hold: each of its bins counts the documents that
fall into it, and there is one for every number that a document falls into. -/
theorem exists_buckets_of_histogramOf (few : docs.length < Number.signedBound)
    (numbers : (docs.flatMap (numbersAt · field)).length < Number.signedBound) :
    ∃ items bins, ((histogramOf docs field width offset).get? "buckets").bind Json.items? = some items ∧
      StatBucket.ofBins width items = .ok bins ∧
      (∀ b ∈ bins, ∃ k : Int,
        b.lower = some (k * width + offset) ∧ b.upper = some (k * width + offset + width) ∧
        b.count = ((docs.filter fun doc => (binsOf field width offset doc).contains k).length : Nat)) ∧
      ∀ k ∈ docs.flatMap (binsOf field width offset), ∃ b ∈ bins,
        b.lower = some (k * width + offset) ∧ b.upper = some (k * width + offset + width) := by
  choose bucket read placed using exists_bucket width offset few numbers
  obtain ⟨ks, written, laid⟩ := exists_numbers_of_histogramOf docs field width offset
  refine ⟨_, _, written, StatBucket.ofBins_map read ks, fun b hb => ?_, fun k hk => ?_⟩
  · obtain ⟨k, -, rfl⟩ := List.mem_map.mp hb
    exact ⟨k, placed k⟩
  · have numbered : k ∈ ks := by
      rcases laid with ⟨none, -⟩ | ⟨low, high, rfl, -, -, within⟩
      · rw [none] at hk
        cases hk
      · exact mem_interval.mpr (within k hk)
    exact ⟨_, List.mem_map_of_mem numbered, (placed k).1, (placed k).2.1⟩

variable (single : ∀ doc ∈ docs, (numbersAt doc field).length ≤ 1) (few : docs.length < Number.signedBound)
  (fits : ∀ doc ∈ docs, ∀ x ∈ numbersAt doc field, Number.isSigned (placeOf width offset x) = true)

include single in
/-- Documents with one number at most hold no more numbers than there are documents. -/
theorem length_numbers_le : (docs.flatMap (numbersAt · field)).length ≤ docs.length := by
  induction docs with
  | nil => rfl
  | cons doc docs ih =>
    obtain ⟨one, others⟩ := List.forall_mem_cons.mp single
    have rest := ih others
    rw [List.flatMap_cons, List.length_append, List.length_cons]
    omega

include fits

/-- Within the words, the bins of a document are those its numbers lie in. -/
theorem binsOf_eq {doc : Json Rat} (mem : doc ∈ docs) :
    binsOf field width offset doc = (numbersAt doc field).map (placeOf width offset) :=
  List.map_congr_left fun x hx => Scalar.floor_rat (fits doc mem x hx)

include single

/-- Where documents hold one number at most, those that fall into a bin are as many as the numbers that
lie in it. -/
theorem length_filter_binsOf (k : Int) :
    (docs.filter fun doc => (binsOf field width offset doc).contains k).length =
      (docs.flatMap (numbersAt · field)).countP fun x => placeOf width offset x = k := by
  induction docs with
  | nil => rfl
  | cons doc docs ih =>
    obtain ⟨one, single⟩ := List.forall_mem_cons.mp single
    have here := binsOf_eq fits List.mem_cons_self
    rw [List.flatMap_cons, List.countP_append, ← ih single (List.forall_mem_cons.mp fits).2,
      List.filter_cons, here]
    match numbersAt doc field, one with
    | [], _ => simp
    | [x], _ =>
      by_cases inside : placeOf width offset x = k
      · simp [inside, add_comm]
      · simp [inside, Ne.symm inside]

include few

/-- A bin of the store can be read, and counts the numbers in it. -/
theorem exists_isBin (k : Int) :
    ∃ b, StatBucket.ofBin width (bin field width offset
      (docs.map fun doc => (doc, binsOf field width offset doc)) k) = .ok b ∧
        b.IsBin width offset (docs.flatMap (numbersAt · field)) k := by
  obtain ⟨b, read, lower, upper, count⟩ :=
    exists_bucket width offset few ((length_numbers_le single).trans_lt few) k
  exact ⟨b, read, lower, upper, count.trans (congrArg Nat.cast (length_filter_binsOf single fits k))⟩

/-- What is read off the bins of a store tiles the numbers of its documents. -/
theorem exists_tiles_of_histogramOf (positive : 0 < width) :
    ∃ items bins, ((histogramOf docs field width offset).get? "buckets").bind Json.items? = some items ∧
      StatBucket.ofBins width items = .ok bins ∧
      Tiles offset width (docs.flatMap (numbersAt · field)) bins := by
  have numbers : docs.flatMap (binsOf field width offset) =
      (docs.flatMap (numbersAt · field)).map (placeOf width offset) := by
    rw [List.map_flatMap]
    exact List.flatMap_congr fun doc mem => binsOf_eq fits mem
  choose bucket read bins using exists_isBin single few fits
  obtain ⟨ks, written, laid⟩ := exists_numbers_of_histogramOf docs field width offset
  refine ⟨_, _, written, StatBucket.ofBins_map read ks, ?_⟩
  rw [numbers] at laid
  rcases laid with ⟨none, rfl⟩ | ⟨low, high, rfl, first, last, within⟩
  · rw [List.map_eq_nil_iff.mp none]
    exact .nil
  · refine Tiles.of_isBin positive bins ?_ ?_ fun x hx => within _ (List.mem_map_of_mem hx)
    · obtain ⟨x, hx, number⟩ := List.mem_map.mp first
      exact ⟨x, hx, number⟩
    · obtain ⟨y, hy, number⟩ := List.mem_map.mp last
      exact ⟨y, hy, number⟩

end Store

end TieredSearch
