import TieredSearch.Number.Scalar
import TieredSearch.Number.Layout
import TieredSearch.Number.Word

/-!
# Binary floating point

The carrier that runs the library: IEEE 754 numbers of 64 bits. The remainder is computed
exactly on the decoded significands; numerals are read by the two rules of `Scalar`, the JSON
one scaling a 64-bit significand by one rounded power of ten.
-/

namespace TieredSearch.Number.Binary

/-- Whether the sign bit is set. -/
def isNegative (x : Float) : Bool := signedBound ≤ x.toBits.toNat

/-- The first natural number that does not fit the 52 bits of a fraction. -/
def fractionBound : Nat := 4503599627370496

/-- The exact magnitude of a finite number. -/
def magnitude (x : Float) : Magnitude :=
  let bits := x.toBits.toNat
  let fraction := bits % fractionBound
  match bits / fractionBound % 2048 with
  | 0 => ⟨fraction, -1074, false⟩
  | e + 1 => ⟨fractionBound + fraction, (e : Int) - 1074, fraction = 0 && e ≠ 0⟩

/-- The text of a number under a layout, `other` standing for what is not finite. -/
def render (l : Layout) (other : Float → String) (x : Float) : String :=
  if x.isFinite then
    let m := magnitude x
    let body := if m.significand = 0 then l.zero else l.render (m.shortest l.tie)
    String.ofList (if isNegative x then '-' :: body else body)
  else other x

/-- Infinity and the undefined number in a message. -/
def spelled (x : Float) : String :=
  if x.isNaN then "NaN" else if isNegative x then "-inf" else "inf"

/-- The remainder of truncated division, exact: on a common exponent it is a remainder of
naturals. -/
def remainder (x y : Float) : Float :=
  if !x.isFinite || y.isNaN || (magnitude y).significand = 0 then 0.0 / 0.0
  else if !y.isFinite then x
  else
    let a := magnitude x
    let b := magnitude y
    let e := min a.exponent b.exponent
    let r := (a.significand * Nat.pow 2 (a.exponent - e).toNat)
      % (b.significand * Nat.pow 2 (b.exponent - e).toNat)
    let size := (Float.ofNat r).scaleB e
    if isNegative x then -size else size

/-- The remainder moved up by the divisor's size when it is negative. -/
def modulo (x y : Float) : Float :=
  let r := remainder x y
  if r < 0 then r + y.abs else r

/-- A power of ten, rounded. -/
def tenTo (n : Nat) : Float := Float.ofScientific 1 false n

/-- Scales down by `10 ^ n`, at most 308 places at a time. -/
def scaleDown (x : Float) (n : Nat) : Float :=
  if n ≤ 308 then x / tenTo n
  else if x == 0 then x
  else scaleDown (x / tenTo 308) (n - 308)
termination_by n

/-- A significand times a power of ten, each rounded once; `none` beyond the finite numbers. -/
def ofParts? (negative : Bool) (significand : Nat) (exponent : Int) : Option Float :=
  let f := Float.ofNat significand
  let sized :=
    if exponent < 0 then some (scaleDown f exponent.natAbs)
    else if exponent ≤ 308 then
      let g := f * tenTo exponent.toNat
      if g.isInf then none else some g
    else if f == 0 then some f
    else none
  sized.map fun g => if negative then -g else g

/-- The nearest number to a decimal, `none` beyond the finite numbers. Exponents far outside the
range are cut off first: no number of digits a text can hold brings them back. -/
def ofDecimal? (negative : Bool) (digits : Nat) (exponent : Int) : Option Float :=
  let width : Int := Magnitude.digitCount digits
  let f :=
    if digits = 0 || exponent + width < -400 then some 0.0
    else if 400 < exponent + width then none
    else if exponent < 0 then some (Float.ofScientific digits true exponent.natAbs)
    else some (Float.ofScientific digits false exponent.toNat)
  match f with
  | some g => if g.isFinite then some (if negative then -g else g) else none
  | none => none

end TieredSearch.Number.Binary

namespace TieredSearch

open Number.Binary in
instance : Scalar Float where
  ofInt := Float.ofInt
  lt x y := x < y
  le x y := x ≤ y
  eq x y := x == y
  modulo := modulo
  floor x := x.floor.toInt64.toInt
  isFinite := Float.isFinite
  ofParts? := ofParts?
  ofDecimal? := ofDecimal?
  text := render .json fun _ => "null"
  plain := render .message spelled

end TieredSearch
