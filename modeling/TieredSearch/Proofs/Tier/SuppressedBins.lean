import Mathlib.Data.Int.CharZero
import Mathlib.Tactic.NormNum
import TieredSearch.Proofs.Tier.NumericShadow

/-!
# What a suppressed bin shows

Where the shadow of a bin is small, only the count of the bin is taken away; its extremes, its mean and
its sum stay (`Redaction.stat_eq`). A mean is the sum over the count, so that the count can be had from
what is left. Main statement (`suppressed_count_known_iff`): whoever sees a suppressed bin knows the
count exactly when the bin has a sum, and a mean other than zero. The count is then their quotient.
-/

namespace TieredSearch

variable {R : Type} [Scalar R]

/-! ### What is taken away -/

/-- The bucket without its count. -/
def StatBucket.withheld (b : StatBucket R) : StatBucket R := { b with count := suppressedCount }

namespace Redaction

/-- The first shadow with the lower bound of a bucket is small. -/
def Withholds (r : Redaction) (shadow : List (StatBucket R)) (b : StatBucket R) : Prop :=
  ∃ s, shadow.find? (fun s => sameBound s.lower b.lower) = some s ∧ 0 < s.count ∧ s.count < r.limit

open Classical in
/-- The count of a bucket is withheld if its shadow is small; nothing else of the bucket changes. -/
theorem stat_eq (r : Redaction) (shadow : List (StatBucket R)) (b : StatBucket R) :
    r.stat shadow b = if r.Withholds shadow b then b.withheld else b := by
  rw [stat, Withholds]
  cases found : shadow.find? fun s => sameBound s.lower b.lower with
  | none => simp
  | some s =>
    simp only [Option.some.injEq, exists_eq_left', count, ← suppresses_iff (r := r)]
    split
    next small => rfl
    next large => rfl

end Redaction

/-! ### What is known of the count -/

namespace StatBucket

/-- If the bucket counts anything, its mean is its sum over its count. -/
def Averages (b : StatBucket Rat) : Prop :=
  b.count ≠ 0 → ∀ sum avg, b.sum = some sum → b.avg = some avg → avg = sum / b.count

/-- The bucket has a sum, and a mean other than zero. -/
def HasQuotient (b : StatBucket Rat) : Prop :=
  ∃ sum avg, b.sum = some sum ∧ b.avg = some avg ∧ avg ≠ 0

/-- Whatever bucket it was that shows like this without its count, it has counted `n`. -/
def Reveals (shown : StatBucket Rat) (n : Int) : Prop :=
  ∀ b : StatBucket Rat, b.count ≠ 0 → b.Averages → b.withheld = shown → b.count = n

variable {b : StatBucket Rat}

/-- A sum over a mean other than zero is the count. -/
theorem Averages.quotient_eq (averages : b.Averages) (counted : b.count ≠ 0) {sum avg : Rat}
    (summed : b.sum = some sum) (averaged : b.avg = some avg) (nonzero : avg ≠ 0) :
    sum / avg = b.count := by
  have mean := averages counted sum avg summed averaged
  have denominator : (b.count : Rat) ≠ 0 := Int.cast_ne_zero.mpr counted
  rw [div_eq_iff nonzero, mean, mul_div_cancel₀ _ denominator]

/-- Without a sum, or with no mean other than zero, any other count would do as well. -/
theorem Averages.recount (averages : b.Averages) (counted : b.count ≠ 0) (none : ¬b.HasQuotient)
    (n : Int) : ({ b with count := n } : StatBucket Rat).Averages := by
  intro _ sum avg summed averaged
  have zero : avg = 0 := by
    by_contra nonzero
    exact none ⟨sum, avg, summed, averaged, nonzero⟩
  have mean := averages counted sum avg summed averaged
  have denominator : (b.count : Rat) ≠ 0 := Int.cast_ne_zero.mpr counted
  have nothing : sum = 0 := (div_eq_zero_iff.mp (mean.symm.trans zero)).resolve_right denominator
  rw [zero, nothing, zero_div]

/-- A bucket without its count reveals it exactly by its quotient. -/
theorem reveals_withheld_iff (averages : b.Averages) (counted : b.count ≠ 0) :
    b.withheld.Reveals b.count ↔ b.HasQuotient := by
  constructor
  · intro reveals
    by_contra none
    -- a count that is neither zero nor the one of the bucket
    obtain ⟨n, nonzero, other⟩ : ∃ n : Int, n ≠ 0 ∧ n ≠ b.count := by
      by_cases one : b.count = 1
      · exact ⟨2, by decide, by omega⟩
      · exact ⟨1, by decide, Ne.symm one⟩
    exact other (reveals { b with count := n } nonzero (averages.recount counted none n) rfl)
  · rintro ⟨sum, avg, summed, averaged, nonzero⟩ b' counted' averages' same
    have summed' : b'.sum = some sum := (congrArg StatBucket.sum same).trans summed
    have averaged' : b'.avg = some avg := (congrArg StatBucket.avg same).trans averaged
    have quotient := averages.quotient_eq counted summed averaged nonzero
    have quotient' := averages'.quotient_eq counted' summed' averaged' nonzero
    exact Int.cast_injective (quotient'.symm.trans quotient)

end StatBucket

/-- Of buckets whose means are their sums over their counts, one that is suppressed shows everything
but its count. The count is known from that exactly if the bucket has a sum, and a mean other than
zero; then it is the quotient of the two. -/
theorem suppressed_count_known_iff (r : Redaction) {buckets shadow : List (StatBucket Rat)}
    (averages : ∀ b ∈ buckets, b.Averages) {b : StatBucket Rat} (mem : b ∈ buckets)
    (counted : b.count ≠ 0) (withheld : r.Withholds shadow b) :
    r.stat shadow b ∈ r.stats buckets shadow ∧ r.stat shadow b = { b with count := suppressedCount } ∧
      ((r.stat shadow b).Reveals b.count ↔ (r.stat shadow b).HasQuotient) ∧
      ∀ sum avg, (r.stat shadow b).sum = some sum → (r.stat shadow b).avg = some avg → avg ≠ 0 →
        sum / avg = b.count := by
  have shown : r.stat shadow b = b.withheld := by
    classical
    rw [Redaction.stat_eq, if_pos withheld]
  refine ⟨List.mem_map_of_mem mem, shown, ?_⟩
  rw [shown]
  exact ⟨StatBucket.reveals_withheld_iff (averages b mem) counted,
    fun sum avg => (averages b mem).quotient_eq counted⟩

namespace Sample

/-- The ages of subjects in bins of fifty years. -/
def agesByFifty : AggregationRequest Rat := ⟨"age", none, true, none, none, some 50, none, none⟩

/-- The bin of two subjects of ten and thirty years. -/
def youngBin : StatBucket Rat := ⟨some 0, some 50, some 10, some 30, some 20, some 40, 2⟩

/-- The same bin of the older one alone. -/
def youngShadow : StatBucket Rat := ⟨some 0, some 50, some 30, some 30, some 30, some 30, 1⟩

theorem averages_youngBin : youngBin.Averages := by
  rintro - sum avg ⟨⟩ ⟨⟩
  norm_num [youngBin]

end Sample

/-- Suppressed for the older of two subjects, their bin still tells that there are two. -/
theorem count_of_young_bin_known :
    Sample.youngBin.Averages ∧ Sample.youngBin.count ≠ 0 ∧
    (⟨20, []⟩ : Redaction).Withholds [Sample.youngShadow] Sample.youngBin ∧
    ((⟨20, []⟩ : Redaction).stat [Sample.youngShadow] Sample.youngBin).Reveals 2 := by
  have averages : ∀ b ∈ [Sample.youngBin], b.Averages := by
    rintro b mem
    cases List.mem_singleton.mp mem
    exact Sample.averages_youngBin
  have counted : Sample.youngBin.count ≠ 0 := by decide
  have withheld : (⟨20, []⟩ : Redaction).Withholds [Sample.youngShadow] Sample.youngBin :=
    ⟨Sample.youngShadow, rfl, by decide, by decide⟩
  obtain ⟨-, shown, revealed, -⟩ :=
    suppressed_count_known_iff ⟨20, []⟩ averages List.mem_cons_self counted withheld
  exact ⟨Sample.averages_youngBin, counted, withheld,
    revealed.mpr (shown ▸ ⟨40, 20, rfl, rfl, by decide⟩)⟩

/-- Asked for the ages of two subjects, of which the older one is out of scope, a regular index
suppresses the count of their bin and shows its sum and its mean, whose quotient is the count. -/
theorem count_of_young_bin_shown_by_mean :
    (Sample.context .regular).config.validate = .ok () ∧
    (Scope.resolve (Sample.context .regular) (Sample.granting "/a") : Dialogue Rat Scope).onStore
      Sample.mixed = .value (Sample.scope ["/a"] ["/b"]) ∧
    (Redaction.ofConfig (Sample.context .regular).config).stats [Sample.youngBin] [Sample.youngShadow] =
      [⟨some 0, some 50, some 10, some 30, some 20, some 40, suppressedCount⟩] ∧
    ((Mediation.mk (Sample.context .regular) (Sample.scope ["/a"] ["/b"])).numeric "subject"
      Sample.agesByFifty .all).onStore Sample.mixed =
        .value [⟨some 0, some 50, some 10, some 30, some 20, some 40, suppressedCount⟩] ∧
    Sample.youngBin.Averages ∧ (20 : Rat) ≠ 0 ∧ (40 : Rat) / 20 = Sample.youngBin.count := by
  refine ⟨rfl, by with_unfolding_all rfl, rfl, by with_unfolding_all rfl, Sample.averages_youngBin, by decide, ?_⟩
  norm_num [Sample.youngBin]

end TieredSearch
