import Mathlib.Algebra.Order.Ring.Rat
import Mathlib.Data.Prod.Lex
import TieredSearch.Number.Binary
import TieredSearch.Number.Rational

/-!
# Laws of fractional numbers

What proofs ask of a carrier beyond its operations. That a finite number equals itself and that the
order is strict holds of both carriers: of two numbers of binary floating point, none of them undefined,
their places among all numbers tell which is below (`compare_eq_lt_iff`). That the lower bounds of a
histogram's bins are told apart holds of exact rationals only: in binary floating point, bins far from
zero are wider than the distance of two numbers.
-/

namespace TieredSearch.Scalar

variable {R : Type}

/-- A carrier whose finite numbers equal themselves. -/
class FiniteRefl (R : Type) [Scalar R] : Prop where
  /-- A finite number equals itself. -/
  eq_self : ∀ {x : R}, isFinite x = true → eq x x = true

/-- A carrier whose order is strict. -/
class StrictOrder (R : Type) [Scalar R] : Prop where
  /-- Nothing is below itself. -/
  lt_self : ∀ x : R, lt x x = false
  /-- What is below something is below everything above that. -/
  lt_trans : ∀ {x y z : R}, lt x y = true → lt y z = true → lt x z = true

/-- A carrier in which different bins of one positive width have different lower bounds. -/
class SeparatesBins (R : Type) [Scalar R] : Prop where
  /-- What is strictly above is not below. -/
  not_le_of_lt : ∀ {x y : R}, lt x y = true → le y x = false
  /-- Two bins with equal lower bounds are one bin. -/
  bin_eq : ∀ {width offset : R} {i j : Int}, le width (ofInt 0) = false →
    eq (ofInt i * width + offset) (ofInt j * width + offset) = true → i = j

instance : FiniteRefl Rat where
  eq_self _ := decide_eq_true rfl

instance : StrictOrder Rat where
  lt_self x := decide_eq_false (lt_irrefl x)
  lt_trans below above :=
    decide_eq_true (lt_trans (of_decide_eq_true below) (of_decide_eq_true above))

instance : SeparatesBins Rat where
  not_le_of_lt above := decide_eq_false (not_le_of_gt (of_decide_eq_true above))
  bin_eq {width offset i j} positive same := by
    have positive : ¬width ≤ ((0 : Int) : Rat) := of_decide_eq_false positive
    have same : (i : Rat) * width + offset = (j : Rat) * width + offset := of_decide_eq_true same
    have nonzero : width ≠ 0 := fun zero => positive (by rw [zero, Int.cast_zero])
    exact Rat.intCast_inj.mp (mul_right_cancel₀ nonzero (add_right_cancel same))

open Float.Model in
/-- A finite number compares as equal to itself. -/
theorem compare_self {x : UnpackedFloat} (finite : x.isFinite = true) : x.compare x = some .eq := by
  cases x with
  | notANumber => cases finite
  | infinity sign => cases finite
  | zero sign => rfl
  | finite sign mantissa exponent valid =>
    have exponents : compare exponent exponent = .eq := Std.ReflCmp.compare_self
    have mantissas : compare mantissa mantissa = .eq := Std.ReflCmp.compare_self
    have both : (compare exponent exponent).then (compare mantissa mantissa) = .eq := by
      rw [exponents, mantissas]
      rfl
    cases sign with
    | positive => exact congrArg some both
    | negative => exact congrArg (fun order => some order.swap) both

instance : FiniteRefl Float where
  eq_self {x} finite := by
    show (x.toModel.unpack.compare x.toModel.unpack == some .eq) = true
    rw [compare_self finite]
    rfl

open Float.Model UnpackedFloat in
/-- Where a number stands among all numbers: by its sign and kind, then by its exponent, then by its
mantissa. -/
def place : UnpackedFloat → ℤ ×ₗ ℤ ×ₗ ℤ
  | .infinity .negative => toLex (-2, toLex (0, 0))
  | .finite .negative mantissa exponent _ => toLex (-1, toLex (-exponent, -mantissa))
  | .zero _ => toLex (0, toLex (0, 0))
  | .finite .positive mantissa exponent _ => toLex (1, toLex (exponent, mantissa))
  | .infinity .positive => toLex (2, toLex (0, 0))
  | .notANumber => toLex (3, toLex (0, 0))

theorem then_eq_lt_iff {e e' : ℤ} {m m' : ℕ} :
    (compare e e').then (compare m m') = .lt ↔ e < e' ∨ e = e' ∧ m < m' := by
  rw [Ordering.then_eq_lt, compare_lt_iff_lt, compare_lt_iff_lt, compare_eq_iff_eq]

theorem then_eq_gt_iff {e e' : ℤ} {m m' : ℕ} :
    (compare e e').then (compare m m') = .gt ↔ e' < e ∨ e = e' ∧ m' < m := by
  rw [Ordering.then_eq_gt, compare_gt_iff_gt, compare_gt_iff_gt, compare_eq_iff_eq]

open Float.Model in
/-- A number is below another one when both are defined and its place is below the other's. -/
theorem compare_eq_lt_iff {x y : UnpackedFloat} :
    x.compare y = some .lt ↔ x ≠ .notANumber ∧ y ≠ .notANumber ∧ place x < place y := by
  by_cases hx : x = .notANumber
  · subst hx
    exact ⟨nofun, fun h => absurd rfl h.1⟩
  by_cases hy : y = .notANumber
  · subst hy
    refine ⟨fun h => ?_, fun h => absurd rfl h.2.1⟩
    cases x <;> cases h
  rw [and_iff_right hx, and_iff_right hy]
  rcases x with (_ | _) | _ | _ | ⟨_ | _, m, e, _⟩ <;>
    rcases y with (_ | _) | _ | _ | ⟨_ | _, m', e', _⟩ <;>
      first
      | exact absurd rfl hx
      | exact absurd rfl hy
      | dsimp only [UnpackedFloat.compare, place]
        simp [Prod.Lex.toLex_lt_toLex, then_eq_lt_iff, then_eq_gt_iff]
  rfl

open Float.Model in
theorem lt_eq_true_iff {x y : Float} :
    lt x y = true ↔ x.toModel.unpack.compare y.toModel.unpack = some .lt := by
  show decide (decide (x.toModel < y.toModel) = true) = true ↔ _
  rw [decide_eq_true_iff, decide_eq_true_iff]
  exact beq_iff_eq

instance : StrictOrder Float where
  lt_self x := by
    refine Bool.eq_false_iff.mpr fun below => ?_
    exact lt_irrefl _ (compare_eq_lt_iff.mp (lt_eq_true_iff.mp below)).2.2
  lt_trans below above := by
    obtain ⟨defined, -, below⟩ := compare_eq_lt_iff.mp (lt_eq_true_iff.mp below)
    obtain ⟨-, defined', above⟩ := compare_eq_lt_iff.mp (lt_eq_true_iff.mp above)
    exact lt_eq_true_iff.mpr (compare_eq_lt_iff.mpr ⟨defined, defined', below.trans above⟩)

end TieredSearch.Scalar
