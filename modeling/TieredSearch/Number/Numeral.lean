import TieredSearch.Number.Scalar

/-!
# Numerals in plain text

The numerals a caller may write inside a string: an optional sign, digits with at most one point
and at least one digit, and an optional exponent. What they stand for is rounded once.
-/

namespace TieredSearch.Number

/-- The number a list of decimal digits writes. -/
def ofDigits (ds : List Char) : Nat := ds.foldl (fun n d => n * 10 + (d.toNat - '0'.toNat)) 0

/-- The digits a text starts with, and the rest. -/
def spanDigits (s : List Char) : List Char × List Char := s.span Char.isDigit

/-- An optional sign, and the rest. -/
def takeSign : List Char → Bool × List Char
  | '-' :: rest => (true, rest)
  | '+' :: rest => (false, rest)
  | rest => (false, rest)

/-- The exponent that ends a numeral: `some 0` when there is none, `none` when it is malformed. -/
def exponent? : List Char → Option Int
  | [] => some 0
  | c :: rest =>
    if c = 'e' || c = 'E' then
      let (negative, rest) := takeSign rest
      match spanDigits rest with
      | ([], _) => none
      | (ds, []) => some (if negative then -(ofDigits ds : Int) else ofDigits ds)
      | _ => none
    else none

/-- The finite number a whole text writes, if it is a numeral. -/
def numeral? {R : Type} [Scalar R] (s : String) : Option R :=
  let (negative, body) := takeSign s.toList
  let (whole, rest) := spanDigits body
  let (frac, rest) := match rest with
    | '.' :: rest => spanDigits rest
    | rest => ([], rest)
  if whole.isEmpty && frac.isEmpty then none
  else (exponent? rest).bind fun e =>
    Scalar.ofDecimal? negative (ofDigits (whole ++ frac)) (e - frac.length)

end TieredSearch.Number
