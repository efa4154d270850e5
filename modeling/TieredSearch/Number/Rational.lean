import TieredSearch.Number.Scalar
import TieredSearch.Number.Word

/-!
# Exact rationals

The carrier that says what the arithmetic of a search is meant to compute: nothing is rounded,
every numeral has a value of its own, and every number is finite.
-/

namespace TieredSearch.Number.Rational

/-- A power of ten. -/
def tenTo (n : Nat) : Rat := Rat.ofInt (Nat.pow 10 n : Nat)

/-- A decimal's value. -/
def ofDecimal (negative : Bool) (digits : Nat) (exponent : Int) : Rat :=
  let size :=
    if exponent < 0 then Rat.div (Rat.ofInt digits) (tenTo exponent.natAbs)
    else Rat.mul (Rat.ofInt digits) (tenTo exponent.toNat)
  if negative then Rat.neg size else size

/-- The remainder that is not negative. -/
def modulo (x y : Rat) : Rat :=
  Rat.sub x (Rat.mul (Rat.ofInt (Rat.floor (Rat.div x y.abs))) y.abs)

/-- A number as a whole one or as a fraction. -/
def text (x : Rat) : String :=
  if x.den = 1 then toString x.num else toString x.num ++ "/" ++ toString x.den

end TieredSearch.Number.Rational

namespace TieredSearch

open Number.Rational in
instance : Scalar Rat where
  add := Rat.add
  sub := Rat.sub
  mul := Rat.mul
  div := Rat.div
  ofInt := Rat.ofInt
  lt x y := x < y
  le x y := x ≤ y
  eq x y := x = y
  modulo := modulo
  floor x := Number.clampSigned x.floor
  isFinite _ := true
  ofParts? negative significand exponent := some (ofDecimal negative significand exponent)
  ofDecimal? negative digits exponent := some (ofDecimal negative digits exponent)
  text := text
  plain := text

end TieredSearch
