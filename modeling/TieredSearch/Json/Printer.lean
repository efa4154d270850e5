import TieredSearch.Json.Basic

/-!
# Writing JSON

`Json.compact` is the text without blanks that messages quote and digests are taken of;
`Json.pretty` is the indented text shown at a terminal.
-/

namespace TieredSearch.Json

variable {R : Type} [Scalar R]

/-- A hexadecimal digit in lower case. -/
def hexDigit (n : Nat) : Char := (Nat.toDigits 16 (n % 16)).headD '0'

/-- A character inside a JSON text: the quote, the backslash and control characters are
escaped. -/
def escapeChar (c : Char) : List Char :=
  match c with
  | '"' => ['\\', '"']
  | '\\' => ['\\', '\\']
  | '\x08' => ['\\', 'b']
  | '\t' => ['\\', 't']
  | '\n' => ['\\', 'n']
  | '\x0c' => ['\\', 'f']
  | '\r' => ['\\', 'r']
  | c =>
    if c.toNat < 32 then ['\\', 'u', '0', '0', hexDigit (c.toNat / 16), hexDigit c.toNat] else [c]

/-- A quoted JSON text. -/
def quote (s : String) : String := String.ofList ('"' :: s.toList.flatMap escapeChar ++ ['"'])

mutual

/-- The text of a value without blanks. -/
def compact : Json R → String
  | .null => "null"
  | .bool b => if b then "true" else "false"
  | .int n => toString n
  | .real x => Scalar.text x
  | .str s => quote s
  | .arr items => "[" ++ ",".intercalate (compactItems items) ++ "]"
  | .obj members => "\x7b" ++ ",".intercalate (compactMembers members) ++ "\x7d"

/-- The texts of the items of a list. -/
def compactItems : List (Json R) → List String
  | [] => []
  | v :: rest => compact v :: compactItems rest

/-- The texts of the members of an object. -/
def compactMembers : List (String × Json R) → List String
  | [] => []
  | (k, v) :: rest => (quote k ++ ":" ++ compact v) :: compactMembers rest

end

/-- Entries one to a line between brackets, the last bracket indented by `margin`. -/
def block (opening closing margin : String) (entries : List String) : String :=
  if entries.isEmpty then opening ++ closing
  else
    let inner := "\n" ++ margin ++ "  "
    opening ++ inner ++ ("," ++ inner).intercalate entries ++ "\n" ++ margin ++ closing

mutual

/-- The text of a value indented by two blanks a level. -/
def prettyAt (margin : String) : Json R → String
  | .arr items => block "[" "]" margin (prettyItems (margin ++ "  ") items)
  | .obj members => block "\x7b" "\x7d" margin (prettyMembers (margin ++ "  ") members)
  | v => compact v

/-- The indented texts of the items of a list. -/
def prettyItems (margin : String) : List (Json R) → List String
  | [] => []
  | v :: rest => prettyAt margin v :: prettyItems margin rest

/-- The indented texts of the members of an object. -/
def prettyMembers (margin : String) : List (String × Json R) → List String
  | [] => []
  | (k, v) :: rest => (quote k ++ ": " ++ prettyAt margin v) :: prettyMembers margin rest

end

/-- The indented text of a value. -/
def pretty (v : Json R) : String := prettyAt "" v

end TieredSearch.Json
