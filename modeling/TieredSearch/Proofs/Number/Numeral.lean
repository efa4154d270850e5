import Mathlib.Data.List.TakeDrop
import Mathlib.Data.List.TakeWhile
import TieredSearch.Number.Numeral

/-!
# What a numeral writes

The texts that numbers are read from, said without the reader.

* `IsNumeral`: an optional sign; digits, which may have a point before, behind or between them; and an optional
  exponent.
* `Reads`: a text is a numeral, and what it writes is rounded to a number.
* Main statement (`numeral?_eq_some_iff`): the reader gives a number exactly for the texts that read as it.

The parts of a numeral are read one after the other, and no part can begin with what the part before it is made
of. So each part has one lemma that reads it off the front of a text (`takeSign_append`, `spanDigits_append`,
`exponent?_eq_some_iff`).
-/

namespace TieredSearch.Number

/-! ### Numerals -/

/-- `IsSign sign negative`: a sign, or none. -/
inductive IsSign : List Char → Bool → Prop where
  /-- No sign. -/
  | absent : IsSign [] false
  /-- A plus. -/
  | plus : IsSign ['+'] false
  /-- A minus. -/
  | minus : IsSign ['-'] true

/-- Nothing but decimal digits. -/
def AreDigits (ds : List Char) : Prop := ∀ d ∈ ds, d.isDigit = true

/-- `IsMantissa s whole frac`: digits, with a point before, behind or between them, or without one. -/
inductive IsMantissa : List Char → List Char → List Char → Prop where
  /-- Digits without a point. -/
  | integral {whole : List Char} (digits : AreDigits whole) (some : whole ≠ []) : IsMantissa whole whole []
  /-- Digits around a point. One side of it may have none. -/
  | pointed {whole frac : List Char} (digits : AreDigits whole) (places : AreDigits frac)
      (some : whole ≠ [] ∨ frac ≠ []) : IsMantissa (whole ++ '.' :: frac) whole frac

/-- `IsExponent s e`: an exponent, or none. -/
inductive IsExponent : List Char → Int → Prop where
  /-- No exponent. -/
  | absent : IsExponent [] 0
  /-- A mark, then a whole number with a sign or without. -/
  | power {mark : Char} {sign ds : List Char} {negative : Bool} (marked : mark = 'e' ∨ mark = 'E')
      (signed : IsSign sign negative) (digits : AreDigits ds) (some : ds ≠ []) :
      IsExponent (mark :: (sign ++ ds)) (if negative then -(ofDigits ds : Int) else ofDigits ds)

/-- `IsNumeral s negative n e`: the text writes the number `n`, or its opposite, moved by `e` decimal places. -/
inductive IsNumeral : String → Bool → Nat → Int → Prop where
  /-- A sign, a mantissa and an exponent. The places behind the point count against the exponent. -/
  | parts {s : String} {sign mantissa whole frac exponent : List Char} {negative : Bool} {e : Int}
      (text : s.toList = sign ++ (mantissa ++ exponent)) (signed : IsSign sign negative)
      (written : IsMantissa mantissa whole frac) (scaled : IsExponent exponent e) :
      IsNumeral s negative (ofDigits (whole ++ frac)) (e - frac.length)

/-- The text is a numeral, and what it writes is rounded to the number. -/
def Reads {R : Type} [Scalar R] (s : String) (x : R) : Prop :=
  ∃ negative n e, IsNumeral s negative n e ∧ Scalar.ofDecimal? negative n e = some x

/-! ### Signs and digits -/

/-- The text is at its end, or does not go on with a digit. -/
def Stops (rest : List Char) : Prop := ∀ c ∈ rest.head?, c.isDigit = false

/-- The text is at its end, or does not go on with a sign. -/
def Unsigned (rest : List Char) : Prop := ∀ c ∈ rest.head?, c ≠ '-' ∧ c ≠ '+'

theorem stops_nil : Stops [] := by
  intro c hc
  cases hc

theorem stops_cons {c : Char} (other : c.isDigit = false) (rest : List Char) : Stops (c :: rest) := by
  rintro d ⟨⟩
  exact other

theorem unsigned_of_isDigit {d : Char} (digit : d.isDigit = true) (rest : List Char) : Unsigned (d :: rest) := by
  rintro c ⟨⟩
  constructor
  · rintro rfl
    cases digit
  · rintro rfl
    cases digit

/-- A sign is taken off a text that does not go on with another one. -/
theorem takeSign_append {sign rest : List Char} {negative : Bool} (signed : IsSign sign negative)
    (unsigned : Unsigned rest) : takeSign (sign ++ rest) = (negative, rest) := by
  cases signed with
  | absent =>
    cases rest with
    | nil => rfl
    | cons c rest =>
      obtain ⟨minus, plus⟩ := unsigned c rfl
      simp [takeSign, minus, plus]
  | plus => rfl
  | minus => rfl

theorem exists_sign {s rest : List Char} {negative : Bool} (taken : takeSign s = (negative, rest)) :
    ∃ sign, s = sign ++ rest ∧ IsSign sign negative := by
  unfold takeSign at taken
  split at taken
  · cases taken
    exact ⟨['-'], rfl, .minus⟩
  · cases taken
    exact ⟨['+'], rfl, .plus⟩
  · cases taken
    exact ⟨[], rfl, .absent⟩

/-- Digits are taken off a text that does not go on with another one. -/
theorem spanDigits_append {ds rest : List Char} (digits : AreDigits ds) (stops : Stops rest) :
    spanDigits (ds ++ rest) = (ds, rest) := by
  rw [spanDigits, List.span_eq_takeWhile_dropWhile, List.takeWhile_append_of_pos digits,
    List.dropWhile_append_of_pos digits]
  cases rest with
  | nil => simp
  | cons c rest =>
    have other : c.isDigit = false := stops c rfl
    simp [other]

theorem append_of_spanDigits {s ds rest : List Char} (spanned : spanDigits s = (ds, rest)) :
    s = ds ++ rest ∧ AreDigits ds := by
  rw [spanDigits, List.span_eq_takeWhile_dropWhile] at spanned
  cases spanned
  exact ⟨List.takeWhile_append_dropWhile.symm, fun d hd => List.mem_takeWhile_imp hd⟩

/-! ### Exponents -/

/-- An exponent begins with neither a digit nor a point. -/
theorem IsExponent.head {s : List Char} {e : Int} (h : IsExponent s e) : Stops s ∧ ∀ rest, s ≠ '.' :: rest := by
  cases h with
  | absent => exact ⟨stops_nil, fun rest same => by cases same⟩
  | power marked signed digits some =>
    rcases marked with rfl | rfl
    · exact ⟨stops_cons rfl _, fun rest same => by cases same⟩
    · exact ⟨stops_cons rfl _, fun rest same => by cases same⟩

/-- Exponents are read as what they write. -/
theorem exponent?_eq_some_iff {s : List Char} {e : Int} : exponent? s = some e ↔ IsExponent s e := by
  constructor
  · intro h
    cases s with
    | nil =>
      cases h
      exact .absent
    | cons mark s =>
      rw [exponent?] at h
      by_cases marked : mark = 'e' ∨ mark = 'E'
      · rw [if_pos (by simpa using marked)] at h
        cases taken : takeSign s with
        | mk negative body =>
          rw [taken] at h
          dsimp only at h
          cases spanned : spanDigits body with
          | mk ds rest =>
            rw [spanned] at h
            obtain ⟨sign, rfl, signed⟩ := exists_sign taken
            obtain ⟨rfl, digits⟩ := append_of_spanDigits spanned
            match ds, rest, h with
            | d :: ds, [], h =>
              cases h
              rw [List.append_nil]
              exact .power marked signed digits (List.cons_ne_nil _ _)
      · rw [if_neg (by simpa using marked)] at h
        cases h
  · intro h
    cases h with
    | absent => rfl
    | @power mark sign ds negative marked signed digits some =>
      obtain ⟨d, ds, rfl⟩ := List.exists_cons_of_ne_nil some
      have unsigned : Unsigned (d :: ds) := unsigned_of_isDigit (digits d List.mem_cons_self) ds
      have spanned : spanDigits (d :: ds ++ []) = (d :: ds, []) := spanDigits_append digits stops_nil
      rw [List.append_nil] at spanned
      rw [exponent?, if_pos (by simpa using marked), takeSign_append signed unsigned]
      dsimp only
      rw [spanned]

/-! ### Whole numerals -/

/-- The places behind a point that a text goes on with, and the rest. -/
def spanPlaces : List Char → List Char × List Char
  | '.' :: rest => spanDigits rest
  | rest => ([], rest)

theorem spanPlaces_of_noPoint {s : List Char} (noPoint : ∀ rest, s ≠ '.' :: rest) : spanPlaces s = ([], s) := by
  unfold spanPlaces
  split
  · exact absurd rfl (noPoint _)
  · rfl

/-- The digits of a mantissa are taken off a text that goes on with an exponent. -/
theorem IsMantissa.span_append {s whole frac exponent : List Char} {e : Int} (written : IsMantissa s whole frac)
    (scaled : IsExponent exponent e) :
    ∃ rest, spanDigits (s ++ exponent) = (whole, rest) ∧ spanPlaces rest = (frac, exponent) := by
  obtain ⟨stops, noPoint⟩ := scaled.head
  cases written with
  | integral digits some => exact ⟨exponent, spanDigits_append digits stops, spanPlaces_of_noPoint noPoint⟩
  | pointed digits places some =>
    refine ⟨'.' :: (frac ++ exponent), ?_, spanDigits_append places stops⟩
    rw [List.append_assoc]
    exact spanDigits_append digits (stops_cons rfl _)

/-- What is taken off a text is a mantissa, if there is a digit in it. -/
theorem exists_mantissa {s whole frac rest exponent : List Char} (spanned : spanDigits s = (whole, rest))
    (places : spanPlaces rest = (frac, exponent)) (some : whole ≠ [] ∨ frac ≠ []) :
    ∃ mantissa, s = mantissa ++ exponent ∧ IsMantissa mantissa whole frac := by
  obtain ⟨rfl, digits⟩ := append_of_spanDigits spanned
  unfold spanPlaces at places
  split at places
  next behind =>
    obtain ⟨rfl, decimals⟩ := append_of_spanDigits places
    exact ⟨whole ++ '.' :: frac, by simp, .pointed digits decimals some⟩
  next =>
    cases places
    have nonempty : whole ≠ [] := some.resolve_right (fun none => none rfl)
    exact ⟨whole, rfl, .integral digits nonempty⟩

/-- A mantissa has a digit. -/
theorem IsMantissa.some {s whole frac : List Char} (h : IsMantissa s whole frac) : whole ≠ [] ∨ frac ≠ [] := by
  cases h with
  | integral digits some => exact .inl some
  | pointed digits places some => exact some

/-- A mantissa begins with a digit or with the point. -/
theorem IsMantissa.unsigned {s whole frac : List Char} (h : IsMantissa s whole frac) (rest : List Char) :
    Unsigned (s ++ rest) := by
  have first {ds : List Char} (digits : AreDigits ds) (some : ds ≠ []) (rest : List Char) : Unsigned (ds ++ rest) := by
    obtain ⟨d, ds, rfl⟩ := List.exists_cons_of_ne_nil some
    exact unsigned_of_isDigit (digits d List.mem_cons_self) (ds ++ rest)
  cases h with
  | integral digits some => exact first digits some rest
  | pointed digits places some =>
    rw [List.append_assoc]
    by_cases bare : whole = []
    · rw [bare]
      rintro c ⟨⟩
      decide
    · exact first digits bare _

variable {R : Type} [Scalar R] {s : String} {x : R}

/-- A text is read part by part. -/
theorem numeral?_of_parts {negative : Bool} {body whole rest frac exponent : List Char}
    (taken : takeSign s.toList = (negative, body)) (spanned : spanDigits body = (whole, rest))
    (places : spanPlaces rest = (frac, exponent)) :
    (numeral? s : Option R) = if whole = [] ∧ frac = [] then none
      else (exponent? exponent).bind fun e =>
        Scalar.ofDecimal? negative (ofDigits (whole ++ frac)) (e - frac.length) := by
  rw [numeral?, taken]
  dsimp only
  rw [spanned]
  change (if (whole.isEmpty && (spanPlaces rest).1.isEmpty) = true then none
    else (exponent? (spanPlaces rest).2).bind fun e => Scalar.ofDecimal? negative
      (ofDigits (whole ++ (spanPlaces rest).1)) (e - (spanPlaces rest).1.length)) = _
  rw [places]
  simp only [Bool.and_eq_true, List.isEmpty_iff]

/-- The reader gives a number exactly for the texts that read as it. -/
theorem numeral?_eq_some_iff : numeral? s = some x ↔ Reads s x := by
  constructor
  · intro h
    cases taken : takeSign s.toList with
    | mk negative body =>
      cases spanned : spanDigits body with
      | mk whole rest =>
        cases places : spanPlaces rest with
        | mk frac exponent =>
          rw [numeral?_of_parts taken spanned places] at h
          split at h
          next => cases h
          next some =>
            obtain ⟨e, scaled, rounded⟩ := Option.bind_eq_some_iff.mp h
            obtain ⟨sign, text, signed⟩ := exists_sign taken
            obtain ⟨mantissa, rfl, written⟩ := exists_mantissa spanned places (not_and_or.mp some)
            exact ⟨negative, _, _, .parts text signed written (exponent?_eq_some_iff.mp scaled), rounded⟩
  · rintro ⟨negative, n, e, numeral, rounded⟩
    cases numeral with
    | @parts sign mantissa whole frac exponent negative e text signed written scaled =>
      have taken : takeSign s.toList = (negative, mantissa ++ exponent) := by
        rw [text]
        exact takeSign_append signed (written.unsigned exponent)
      obtain ⟨rest, spanned, places⟩ := written.span_append scaled
      rw [numeral?_of_parts taken spanned places, if_neg (not_and_or.mpr written.some),
        exponent?_eq_some_iff.mpr scaled, Option.bind_some, rounded]

end TieredSearch.Number
