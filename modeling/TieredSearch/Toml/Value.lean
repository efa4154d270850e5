/-!
# TOML values

A configuration file is a TOML document. Fractional numbers and dates have no use in a
configuration, so their text is all that is kept of them.
-/

namespace TieredSearch

/-- A TOML value. -/
inductive Toml where
  /-- A text. -/
  | str (s : String)
  /-- A whole number of 64 bits. -/
  | int (n : Int)
  /-- A fractional number. -/
  | float (text : String)
  /-- A truth value. -/
  | bool (b : Bool)
  /-- A date, a time, or both. -/
  | dateTime (text : String)
  /-- A list. -/
  | arr (items : List Toml)
  /-- A table: each key once. -/
  | table (members : List (String × Toml))
  deriving Inhabited

namespace Toml

/-- The value of a key among members. -/
def lookup (key : String) : List (String × Toml) → Option Toml
  | [] => none
  | (k, v) :: rest => if k = key then some v else lookup key rest

end Toml

end TieredSearch
