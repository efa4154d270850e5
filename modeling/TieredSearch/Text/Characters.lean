/-!
# Sets of characters

Unicode properties are stored as lists of inclusive ranges of code points. A text is blank when it holds nothing
but white space in the sense of Unicode.
-/

namespace TieredSearch.Text

/-- Inclusive ranges of code points. -/
abbrev Ranges := List (Nat × Nat)

/-- Whether a character lies in one of the ranges. -/
def Ranges.has (rs : Ranges) (c : Char) : Bool := rs.any fun (a, b) => a ≤ c.toNat && c.toNat ≤ b

/-- The characters with the property White_Space. -/
def whiteSpace : Ranges :=
  [(0x09, 0x0D), (0x20, 0x20), (0x85, 0x85), (0xA0, 0xA0), (0x1680, 0x1680), (0x2000, 0x200A),
    (0x2028, 0x2029), (0x202F, 0x202F), (0x205F, 0x205F), (0x3000, 0x3000)]

/-- A blank character. -/
def isBlankChar (c : Char) : Bool := whiteSpace.has c

/-- Whether a text holds blank characters only. -/
def isBlank (s : String) : Bool := s.toList.all isBlankChar

/-- A text without the blank characters at its ends. -/
def trim (s : String) : String :=
  String.ofList ((s.toList.dropWhile isBlankChar).reverse.dropWhile isBlankChar).reverse

end TieredSearch.Text
