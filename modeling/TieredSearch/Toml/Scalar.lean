import TieredSearch.Toml.Value
import TieredSearch.Number.Binary
import TieredSearch.Number.Numeral
import TieredSearch.Number.Word

/-!
# Unquoted TOML values

Truth values, numbers and dates are single words.
-/

namespace TieredSearch.Toml

open Number (ofDigits)

/-! ### Digits -/

/-- Whether a word is made of digits with single underscores between them. -/
def isDigitRun (isDigit : Char → Bool) : List Char → Bool
  | [] => false
  | [c] => isDigit c
  | c :: '_' :: rest => isDigit c && isDigitRun isDigit rest
  | c :: rest => isDigit c && isDigitRun isDigit rest

/-- A word without its underscores. -/
def plainDigits (s : List Char) : List Char := s.filter (· ≠ '_')

/-- The value of a digit up to base sixteen. -/
def digitValue (c : Char) : Nat :=
  if c.isDigit then c.toNat - '0'.toNat else c.toLower.toNat - 'a'.toNat + 10

/-- Whether a character is a hexadecimal digit. -/
def isHexDigit (c : Char) : Bool := c.isDigit || ('a' ≤ c.toLower && c.toLower ≤ 'f')

/-- A whole number within 64 bits. -/
def bounded? (n : Int) : Option Toml := if Number.isSigned n then some (.int n) else none

/-- A run of digits in a base. -/
def inBase? (base : Nat) (isDigit : Char → Bool) (s : List Char) : Option Toml :=
  if isDigitRun isDigit s then
    bounded? ((plainDigits s).foldl (fun n c => n * base + digitValue c) 0 : Nat)
  else none

/-! ### Numbers -/

/-- An optional sign, and the rest. -/
def unsigned : List Char → Bool × List Char
  | '-' :: rest => (true, rest)
  | '+' :: rest => (false, rest)
  | rest => (false, rest)

/-- Whether a word is a decimal number without superfluous zeros. -/
def isDecimal (s : List Char) : Bool :=
  isDigitRun Char.isDigit s && (s.head? ≠ some '0' || s.length = 1)

/-- A whole number: decimal, or in base sixteen, eight or two. -/
def integer? : List Char → Option Toml
  | '0' :: 'x' :: rest => inBase? 16 isHexDigit rest
  | '0' :: 'o' :: rest => inBase? 8 (fun c => '0' ≤ c && c ≤ '7') rest
  | '0' :: 'b' :: rest => inBase? 2 (fun c => c = '0' || c = '1') rest
  | s =>
    let (negative, digits) := unsigned s
    if isDecimal digits then
      let n : Int := ofDigits (plainDigits digits)
      bounded? (if negative then -n else n)
    else none

/-- An exponent: a sign and digits. -/
def exponentOf? (s : List Char) : Option Int :=
  let (negative, digits) := unsigned s
  if isDigitRun Char.isDigit digits then
    let n : Int := ofDigits (plainDigits digits)
    some (if negative then -n else n)
  else none

/-- Whether a positive decimal is too large for a binary number. -/
def overflows (digits : List Char) (exponent : Int) : Bool :=
  (Number.Binary.ofDecimal? false (ofDigits digits) exponent).isNone

/-- A fractional number: digits with a point, an exponent, or both, or a special word. A positive
one must not be too large. -/
def float? (s : List Char) : Option Toml :=
  let (negative, body) := unsigned s
  let word := String.ofList s
  if body = "inf".toList || body = "nan".toList then some (.float word)
  else
    let (mantissa, tail) := body.span fun c => c ≠ 'e' && c ≠ 'E'
    let (whole, point) := mantissa.span (· ≠ '.')
    let fraction := point.drop 1
    let exponent := match tail with
      | [] => some 0
      | _ :: rest => exponentOf? rest
    match exponent with
    | none => none
    | some e =>
      if !isDecimal whole || (point.isEmpty && tail.isEmpty) then none
      else if !point.isEmpty && !isDigitRun Char.isDigit fraction then none
      else
        let places := (plainDigits fraction).length
        if !negative && overflows (plainDigits (whole ++ fraction)) (e - places) then none
        else some (.float word)

/-! ### Dates -/

/-- A number of exactly `width` digits within limits, and the rest. -/
def field? (width low high : Nat) (s : List Char) : Option (Nat × List Char) :=
  let ds := s.take width
  if ds.length = width && ds.all Char.isDigit && low ≤ ofDigits ds && ofDigits ds ≤ high then
    some (ofDigits ds, s.drop width)
  else none

/-- What follows a character. -/
def after? (c : Char) : List Char → Option (List Char)
  | d :: rest => if c = d then some rest else none
  | [] => none

/-- How many days a month has. -/
def daysIn (year month : Nat) : Nat :=
  if month = 2 then (if year % 4 = 0 && (year % 100 ≠ 0 || year % 400 = 0) then 29 else 28)
  else if month ∈ [4, 6, 9, 11] then 30
  else 31

/-- What follows a date. -/
def afterDate? (s : List Char) : Option (List Char) := do
  let (year, s) ← field? 4 0 9999 s
  let s ← after? '-' s
  let (month, s) ← field? 2 1 12 s
  let s ← after? '-' s
  let (_, s) ← field? 2 1 (daysIn year month) s
  return s

/-- What follows a time of the day. -/
def afterTime? (s : List Char) : Option (List Char) := do
  let (_, s) ← field? 2 0 23 s
  let s ← after? ':' s
  let (_, s) ← field? 2 0 59 s
  let s ← after? ':' s
  let (_, s) ← field? 2 0 60 s
  match s with
  | '.' :: rest =>
    let (digits, rest) := rest.span Char.isDigit
    if digits.isEmpty then none else some rest
  | s => some s

/-- Whether a word is an offset from universal time, or nothing. -/
def isOffset : List Char → Bool
  | [] => true
  | [c] => c = 'Z' || c = 'z'
  | c :: rest =>
    (c = '+' || c = '-') &&
      ((do
        let (_, s) ← field? 2 0 23 rest
        let s ← after? ':' s
        let (_, s) ← field? 2 0 59 s
        return s.isEmpty : Option Bool).getD false)

/-- A date, a time, or a date and a time. -/
def dateTime? (s : List Char) : Option Toml :=
  let known := match afterDate? s with
    | some [] => true
    | some (c :: rest) =>
      (c = 'T' || c = 't' || c = ' ') && (match afterTime? rest with
        | some offset => isOffset offset
        | none => false)
    | none => afterTime? s = some []
  if known then some (.dateTime (String.ofList s)) else none

/-! ### Words -/

/-- The value of an unquoted word. -/
def scalar? (s : List Char) : Option Toml :=
  if s = "true".toList then some (.bool true)
  else if s = "false".toList then some (.bool false)
  else (dateTime? s).or ((float? s).or (integer? s))

/-- The characters of unquoted words. -/
def isWordChar (c : Char) : Bool :=
  c.isAlphanum || c = '_' || c = '+' || c = '-' || c = '.' || c = ':'

/-- An unquoted word and the rest. A date may be followed by a blank and a time. -/
def takeWord (s : List Char) : List Char × List Char :=
  let (word, rest) := s.span isWordChar
  match rest with
  | ' ' :: c :: more =>
    if c.isDigit && afterDate? word = some [] then
      let (time, rest) := (c :: more).span isWordChar
      (word ++ ' ' :: time, rest)
    else (word, rest)
  | _ => (word, rest)

end TieredSearch.Toml
