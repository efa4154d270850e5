/-!
# Fractional numbers

Whole numbers travel through a search as they are; fractional ones belong to a
carrier `R` of which the library asks only what is listed here. Binary floating
point runs the library (`TieredSearch.Number.Binary`), exact rationals serve to
state what its arithmetic is meant to compute (`TieredSearch.Number.Rational`).
-/

namespace TieredSearch

/-- A carrier of fractional numbers: arithmetic, order, reading and writing. -/
class Scalar (R : Type) extends Add R, Sub R, Mul R, Div R where
  /-- The number nearest to a whole one. -/
  ofInt : Int → R
  /-- Strictly below. -/
  lt : R → R → Bool
  /-- Below or equal. -/
  le : R → R → Bool
  /-- Numerically equal. -/
  eq : R → R → Bool
  /-- The remainder of a division whose quotient is rounded so that the remainder is not negative. -/
  modulo : R → R → R
  /-- The greatest whole number not above, kept within 64 signed bits. -/
  floor : R → Int
  /-- Neither infinite nor undefined. -/
  isFinite : R → Bool
  /-- `ofParts? negative significand exponent`: a JSON numeral's value, the significand scaled
  by one power of ten; `none` when it is too large. -/
  ofParts? : Bool → Nat → Int → Option R
  /-- `ofDecimal? negative digits exponent`: the number nearest to a decimal; `none` when that is
  not finite. -/
  ofDecimal? : Bool → Nat → Int → Option R
  /-- The text of a finite number in a JSON document. -/
  text : R → String
  /-- The text of a number in a message to the caller. -/
  plain : R → String

namespace Scalar

variable {R : Type} [Scalar R]

/-- The smaller of two numbers, the second when neither is. -/
def least (x y : R) : R := if lt x y then x else y

/-- The larger of two numbers, the second when neither is. -/
def greatest (x y : R) : R := if lt y x then x else y

end Scalar

end TieredSearch
