/-!
# Words of 64 bits

The limits within which a JSON or TOML numeral is a whole number, and two ways to stay within
them.
-/

namespace TieredSearch.Number

/-- The first natural number that does not fit 64 bits. -/
def wordBound : Nat := 18446744073709551616

/-- The first whole number above those of 64 signed bits. -/
def signedBound : Nat := 9223372036854775808

/-- Whether a whole number fits 64 signed bits. -/
def isSigned (n : Int) : Bool := -(signedBound : Int) ≤ n && n < signedBound

/-- Whether a whole number fits 64 bits without a sign. -/
def isUnsigned (n : Int) : Bool := 0 ≤ n && n < wordBound

/-- The nearest whole number within 64 signed bits. -/
def clampSigned (n : Int) : Int := max (-(signedBound : Int)) (min n (signedBound - 1))

/-- The whole number of 64 signed bits that differs from `n` by a multiple of their number. -/
def wrapSigned (n : Int) : Int := (n + signedBound) % (wordBound : Int) - signedBound

/-- Being within the limits, as an inequality. -/
theorem isSigned_iff {n : Int} :
    isSigned n = true ↔ -(signedBound : Int) ≤ n ∧ n < (signedBound : Int) := by
  unfold isSigned
  rw [Bool.and_eq_true, decide_eq_true_iff, decide_eq_true_iff]

/-- Within the limits nothing is moved. -/
theorem clampSigned_of_isSigned {n : Int} (h : isSigned n = true) : clampSigned n = n := by
  rw [isSigned_iff] at h
  unfold clampSigned
  unfold signedBound at *
  omega

/-- Within the limits nothing is wrapped. -/
theorem wrapSigned_of_isSigned {n : Int} (h : isSigned n = true) : wrapSigned n = n := by
  rw [isSigned_iff] at h
  unfold wrapSigned
  unfold signedBound at *
  unfold wordBound
  omega

/-- A wrapped number is within the limits. -/
theorem isSigned_wrapSigned (n : Int) : isSigned (wrapSigned n) = true := by
  rw [isSigned_iff]
  unfold wrapSigned signedBound wordBound
  omega

end TieredSearch.Number
