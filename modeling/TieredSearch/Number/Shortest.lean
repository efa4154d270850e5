/-!
# The fewest digits that read back

A binary number `significand * 2 ^ exponent` stands for every real that rounds to it.
`shortest` finds the decimal with the fewest digits among those reals, and of several such
decimals the nearest to the number itself. Everything is exact arithmetic on naturals.
-/

namespace TieredSearch.Number

/-- The magnitude of a binary number: `significand * 2 ^ exponent`. -/
structure Magnitude where
  /-- The integral significand. -/
  significand : Nat
  /-- The power of two it is scaled by. -/
  exponent : Int
  /-- The neighbour below is only half as far away as the one above. -/
  tightBelow : Bool

/-- A decimal `digits * 10 ^ exponent`. -/
structure Decimal where
  /-- The digits, read as one natural number. -/
  digits : Nat
  /-- The power of ten they are scaled by. -/
  exponent : Int
  deriving DecidableEq

/-- Which of two equally near decimals is taken. -/
inductive Tie where
  /-- The one whose last digit is even. -/
  | even
  /-- The larger one. -/
  | up

namespace Magnitude

/-- On the grid of spacing `10 ^ j` the quarter units of `m` and the grid steps have the
common scale `(quarters, steps)`: `x` quarter units lie at `x * quarters`, `c` steps at
`c * steps`. -/
def scale (m : Magnitude) (j : Int) : Nat × Nat :=
  (Nat.pow 2 m.exponent.toNat * Nat.pow 10 (-j).toNat,
    4 * (Nat.pow 2 (-m.exponent).toNat * Nat.pow 10 j.toNat))

/-- The greatest number of grid steps not above `m`. -/
def stepsBelow (m : Magnitude) (j : Int) : Nat :=
  4 * m.significand * (m.scale j).1 / (m.scale j).2

/-- Whether `c` grid steps round to `m`: the ends of the interval count when the significand
is even. -/
def covers (m : Magnitude) (j : Int) (c : Nat) : Bool :=
  let (quarters, steps) := m.scale j
  let low := (4 * m.significand - (if m.tightBelow then 1 else 2)) * quarters
  let high := (4 * m.significand + 2) * quarters
  if m.significand % 2 = 0 then low ≤ c * steps && c * steps ≤ high
  else low < c * steps && c * steps < high

/-- The better of the grid neighbours `c` and `c + 1` of `m`, if any of them rounds to `m`. -/
def nearest? (tie : Tie) (m : Magnitude) (j : Int) : Option Nat :=
  let c := m.stepsBelow j
  let (quarters, steps) := m.scale j
  let twice := 2 * (4 * m.significand * quarters)
  let middle := (2 * c + 1) * steps
  match m.covers j c, m.covers j (c + 1) with
  | true, false => some c
  | false, true => some (c + 1)
  | false, false => none
  | true, true =>
    if twice < middle then some c
    else if middle < twice then some (c + 1)
    else match tie with
      | .up => some (c + 1)
      | .even => some (if c % 2 = 0 then c else c + 1)

/-- How many decimal digits a natural number has. -/
def digitCount (n : Nat) : Nat := (Nat.toDigits 10 n).length

/-- The decimal exponent of `m`: `10 ^ e ≤ m < 10 ^ (e + 1)`. -/
def decimalExponent (m : Magnitude) : Int := digitCount (m.stepsBelow (-400)) - 401

/-- The first grid, from `count` digits on, with a decimal that rounds to `m`. -/
def searchGrids (tie : Tie) (m : Magnitude) (lead : Int) : Nat → Nat → Decimal
  | 0, _ => ⟨m.significand, m.exponent⟩
  | more + 1, count =>
    let j := lead - count + 1
    match m.nearest? tie j with
    | some c => ⟨c, j⟩
    | none => searchGrids tie m lead more (count + 1)

/-- The fewest digits that read back; seventeen always do. -/
def shortest (tie : Tie) (m : Magnitude) : Decimal :=
  searchGrids tie m m.decimalExponent 17 1

end Magnitude

end TieredSearch.Number
