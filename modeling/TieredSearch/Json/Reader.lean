import TieredSearch.Json.Basic
import TieredSearch.Number.Numeral

/-!
# Reading JSON

`Json.parse?` reads a whole text. Lists and objects may be nested 127 deep, a repeated key keeps
its first place and its last value, and a numeral without point or exponent that fits 64 bits is
a whole number. Any other numeral keeps a significand of 64 bits: digits before the point that no
longer fit count as places, digits after it are dropped.
-/

namespace TieredSearch.Json

open Number (spanDigits ofDigits takeSign)

variable {R : Type} [Scalar R]

/-- Drops the blanks a JSON text may have between its parts. -/
def skipBlanks (s : List Char) : List Char :=
  s.dropWhile fun c => c = ' ' || c = '\n' || c = '\t' || c = '\r'

/-! ### Numerals -/

/-- A 64-bit significand and the places it was shifted by. -/
structure Significand where
  /-- The digits kept. -/
  value : Nat
  /-- Digits before the point that did not fit, less the kept digits after it. -/
  places : Int
  /-- No further digit fits. -/
  full : Bool

namespace Significand

/-- Whether one more digit keeps the significand within 64 bits. -/
def fits (value : Nat) (d : Char) : Bool := value * 10 + (d.toNat - '0'.toNat) < Number.wordBound

/-- One digit more before the point. -/
def pushWhole (s : Significand) (d : Char) : Significand :=
  if s.full || !fits s.value d then ⟨s.value, s.places + 1, true⟩
  else ⟨s.value * 10 + (d.toNat - '0'.toNat), s.places, false⟩

/-- One digit more after the point. -/
def pushFraction (s : Significand) (d : Char) : Significand :=
  if s.full || !fits s.value d then { s with full := true }
  else ⟨s.value * 10 + (d.toNat - '0'.toNat), s.places - 1, false⟩

end Significand

/-- The exponent of a numeral, if it has one, and the rest; `none` when it is malformed. -/
def takeExponent? : List Char → Option (Option Int × List Char)
  | c :: rest =>
    if c = 'e' || c = 'E' then
      let (negative, rest) := takeSign rest
      match spanDigits rest with
      | ([], _) => none
      | (ds, rest) => some (some (if negative then -(ofDigits ds : Int) else ofDigits ds), rest)
    else some (none, c :: rest)
  | [] => some (none, [])

/-- The digits after a point, if there is one, and the rest; `none` for a point without digits. -/
def takeFraction? : List Char → Option (Option (List Char) × List Char)
  | '.' :: rest =>
    match spanDigits rest with
    | ([], _) => none
    | (ds, rest) => some (some ds, rest)
  | rest => some (none, rest)

/-- A whole number when it fits 64 bits; the fractional zero when it is `-0`. -/
def whole? (negative : Bool) (n : Nat) : Option (Json R) :=
  if !negative then some (.int n)
  else if n ≠ 0 && n ≤ Number.signedBound then some (.int (-n))
  else (Scalar.ofParts? true n 0).map .real

/-- A numeral and the rest of the text. -/
def numeral? (s : List Char) : Option (Json R × List Char) := do
  let (negative, body) := match s with
    | '-' :: rest => (true, rest)
    | rest => (false, rest)
  let (ds, rest) := spanDigits body
  if ds.isEmpty || (ds.head? = some '0' && 1 < ds.length) then none
  else
    let (frac, rest) ← takeFraction? rest
    let (exponent, rest) ← takeExponent? rest
    let kept := ds.foldl Significand.pushWhole ⟨0, 0, false⟩
    if frac.isNone && exponent.isNone && !kept.full then
      let n ← whole? negative kept.value
      return (n, rest)
    else
      let kept := (frac.getD []).foldl Significand.pushFraction { kept with full := false }
      let x ← Scalar.ofParts? negative kept.value (kept.places + exponent.getD 0)
      return (.real x, rest)

/-! ### Texts -/

/-- The value of a hexadecimal digit. -/
def hexValue? (c : Char) : Option Nat :=
  if c.isDigit then some (c.toNat - '0'.toNat)
  else if 'a' ≤ c && c ≤ 'f' then some (c.toNat - 'a'.toNat + 10)
  else if 'A' ≤ c && c ≤ 'F' then some (c.toNat - 'A'.toNat + 10)
  else none

/-- The code unit four hexadecimal digits write. -/
def unit? (a b c d : Char) : Option Nat := do
  return (((← hexValue? a) * 16 + (← hexValue? b)) * 16 + (← hexValue? c)) * 16 + (← hexValue? d)

/-- A unit that opens a pair of surrogates. -/
def isHighSurrogate (u : Nat) : Bool := 0xD800 ≤ u && u < 0xDC00

/-- A unit that closes a pair of surrogates. -/
def isLowSurrogate (u : Nat) : Bool := 0xDC00 ≤ u && u < 0xE000

/-- The character an escape letter stands for. -/
def escaped? : Char → Option Char
  | '"' => some '"'
  | '\\' => some '\\'
  | '/' => some '/'
  | 'b' => some '\x08'
  | 'f' => some '\x0c'
  | 'n' => some '\n'
  | 'r' => some '\r'
  | 't' => some '\t'
  | _ => none

/-- The characters up to the closing quote, and the rest of the text. -/
def textBody? : List Char → Option (List Char × List Char)
  | '"' :: rest => some ([], rest)
  | '\\' :: 'u' :: a :: b :: c :: d :: '\\' :: 'u' :: e :: f :: g :: h :: rest =>
    match unit? a b c d with
    | none => none
    | some u =>
      if isHighSurrogate u then
        match unit? e f g h with
        | none => none
        | some v =>
          if isLowSurrogate v then
            (textBody? rest).map fun (cs, r) =>
              (Char.ofNat (0x10000 + (u - 0xD800) * 0x400 + (v - 0xDC00)) :: cs, r)
          else none
      else if isLowSurrogate u then none
      else (textBody? ('\\' :: 'u' :: e :: f :: g :: h :: rest)).map fun (cs, r) =>
        (Char.ofNat u :: cs, r)
  | '\\' :: 'u' :: a :: b :: c :: d :: rest =>
    match unit? a b c d with
    | none => none
    | some u =>
      if isHighSurrogate u || isLowSurrogate u then none
      else (textBody? rest).map fun (cs, r) => (Char.ofNat u :: cs, r)
  | '\\' :: e :: rest =>
    match escaped? e with
    | none => none
    | some x => (textBody? rest).map fun (cs, r) => (x :: cs, r)
  | c :: rest =>
    if c = '\\' || c.toNat < 32 then none
    else (textBody? rest).map fun (cs, r) => (c :: cs, r)
  | [] => none

/-! ### Values -/

/-- How deep lists and objects may be nested. -/
def maxDepth : Nat := 127

/-- What follows a literal word, if the text starts with it. -/
def afterWord? (word : String) (s : List Char) : Option (List Char) :=
  if word.toList.isPrefixOf s then some (s.drop word.length) else none

/-- A key, its colon, and the rest. -/
def key? (s : List Char) : Option (String × List Char) :=
  match skipBlanks s with
  | '"' :: rest => do
    let (cs, rest) ← textBody? rest
    match skipBlanks rest with
    | ':' :: rest => some (String.ofList cs, rest)
    | _ => none
  | _ => none

mutual

/-- A value and the rest of the text. Every step reads a character, so fuel beyond the length
of the text is never used up. -/
def value? : Nat → Nat → List Char → Option (Json R × List Char)
  | 0, _, _ => none
  | fuel + 1, depth, s =>
    match skipBlanks s with
    | '"' :: rest => (textBody? rest).map fun (cs, r) => (.str (String.ofList cs), r)
    | '[' :: rest =>
      if depth = 0 then none
      else match skipBlanks rest with
        | ']' :: rest => some (.arr [], rest)
        | rest => (itemsTail? fuel (depth - 1) rest).map fun (vs, r) => (.arr vs, r)
    | '\x7b' :: rest =>
      if depth = 0 then none
      else match skipBlanks rest with
        | '\x7d' :: rest => some (.obj [], rest)
        | rest => (membersTail? fuel (depth - 1) [] rest).map fun (ms, r) => (.obj ms, r)
    | 'n' :: rest => (afterWord? "ull" rest).map (.null, ·)
    | 't' :: rest => (afterWord? "rue" rest).map (.bool true, ·)
    | 'f' :: rest => (afterWord? "alse" rest).map (.bool false, ·)
    | s => numeral? s

/-- The items up to the closing bracket. -/
def itemsTail? : Nat → Nat → List Char → Option (List (Json R) × List Char)
  | 0, _, _ => none
  | fuel + 1, depth, s =>
    match value? fuel depth s with
    | none => none
    | some (v, rest) =>
      match skipBlanks rest with
      | ',' :: rest => (itemsTail? fuel depth rest).map fun (vs, r) => (v :: vs, r)
      | ']' :: rest => some ([v], rest)
      | _ => none

/-- The members up to the closing brace, added to those read before. -/
def membersTail? : Nat → Nat → List (String × Json R) → List Char →
    Option (List (String × Json R) × List Char)
  | 0, _, _, _ => none
  | fuel + 1, depth, before, s =>
    match key? s with
    | none => none
    | some (k, rest) =>
      match value? fuel depth rest with
      | none => none
      | some (v, rest) =>
        match skipBlanks rest with
        | ',' :: rest => membersTail? fuel depth (put k v before) rest
        | '\x7d' :: rest => some (put k v before, rest)
        | _ => none

end

/-- The value a whole text writes. -/
def parse? (text : String) : Option (Json R) :=
  let s := text.toList
  match value? (2 * s.length + 2) maxDepth s with
  | some (v, rest) => if (skipBlanks rest).isEmpty then some v else none
  | none => none

end TieredSearch.Json
