import TieredSearch.Number.Shortest

/-!
# Laying out decimal digits

`Layout` holds the decisions of a number format; `Layout.render` writes a decimal by them.
-/

namespace TieredSearch.Number

/-- How a decimal is written. -/
structure Layout where
  /-- The exponents `e` of `d.ddd * 10 ^ e` that are written without an exponent. -/
  isPositional : Int → Bool
  /-- A whole number written positionally keeps one digit after the point. -/
  keepsPoint : Bool
  /-- Which of two equally near decimals is written. -/
  tie : Tie

namespace Layout

/-- JSON documents: positional from `0.00001` to sixteen digits before the point. -/
def json : Layout := ⟨fun e => -5 ≤ e && e ≤ 15, true, .even⟩

/-- Messages to the caller: never an exponent, and no point after a whole number. -/
def message : Layout := ⟨fun _ => true, false, .up⟩

/-- A list of digits without the zeros at its end. -/
def dropTrailingZeros (ds : List Char) : List Char := (ds.reverse.dropWhile (· = '0')).reverse

/-- Digits `ds` with the point after the first `places` of them. -/
def positional (l : Layout) (ds : List Char) (places : Int) : List Char :=
  if places ≤ 0 then '0' :: '.' :: (List.replicate (-places).toNat '0' ++ ds)
  else
    let whole := ds.take places.toNat ++ List.replicate (places.toNat - ds.length) '0'
    match ds.drop places.toNat with
    | [] => if l.keepsPoint then whole ++ ['.', '0'] else whole
    | frac => whole ++ '.' :: frac

/-- One digit, the point, the others, and an exponent that always has a sign. -/
def scientific (ds : List Char) (e : Int) : List Char :=
  let mantissa := match ds with
    | d :: x :: more => d :: '.' :: x :: more
    | short => short
  let sign := if e < 0 then '-' else '+'
  mantissa ++ 'e' :: sign :: Nat.toDigits 10 e.natAbs

/-- The text of a positive decimal. -/
def render (l : Layout) (d : Decimal) : List Char :=
  let all := Nat.toDigits 10 d.digits
  let e := d.exponent + all.length - 1
  let ds := dropTrailingZeros all
  if l.isPositional e then l.positional ds (e + 1) else scientific ds e

/-- The text of zero. -/
def zero (l : Layout) : List Char := if l.keepsPoint then ['0', '.', '0'] else ['0']

end Layout

end TieredSearch.Number
