import TieredSearch.Number.Scalar
import TieredSearch.Number.Word

/-!
# JSON values

Documents, mappings, filters and answers are JSON. Whole numbers and fractional ones stay
apart (`7` is not `7.0`), and an object is the list of its members in the order they were
first written, each key once.
-/

namespace TieredSearch

/-- A JSON value over the carrier `R` of fractional numbers. -/
inductive Json (R : Type) where
  /-- The null value. -/
  | null
  /-- A truth value. -/
  | bool (b : Bool)
  /-- A whole number, of 64 bits when it was read from a text. -/
  | int (n : Int)
  /-- A fractional number. -/
  | real (x : R)
  /-- A text. -/
  | str (s : String)
  /-- A list of values. -/
  | arr (items : List (Json R))
  /-- The members of an object, in order. -/
  | obj (members : List (String × Json R))
  deriving Inhabited

namespace Json

variable {R : Type}

/-- A fractional number, or null where JSON has no numeral for it. -/
def ofReal [Scalar R] (x : R) : Json R := if Scalar.isFinite x then .real x else .null

/-- A number that may be absent. -/
def ofReal? [Scalar R] : Option R → Json R
  | some x => ofReal x
  | none => .null

/-- A list of texts. -/
def texts (ss : List String) : Json R := .arr (ss.map .str)

/-! ### Reading a value's parts -/

/-- Whether a value is null. -/
def isNull : Json R → Bool
  | .null => true
  | _ => false

/-- The value of a key in a list of members. -/
def lookup (key : String) : List (String × Json R) → Option (Json R)
  | [] => none
  | (k, v) :: rest => if k = key then some v else lookup key rest

/-- The member of an object; nothing in any other value. -/
def get? (key : String) : Json R → Option (Json R)
  | .obj members => lookup key members
  | _ => none

/-- The text of a value that is one. -/
def str? : Json R → Option String
  | .str s => some s
  | _ => none

/-- The items of a list. -/
def items? : Json R → Option (List (Json R))
  | .arr items => some items
  | _ => none

/-- The members of an object. -/
def members? : Json R → Option (List (String × Json R))
  | .obj members => some members
  | _ => none

/-- A truth value. -/
def bool? : Json R → Option Bool
  | .bool b => some b
  | _ => none

/-- A whole number within 64 signed bits. -/
def int? : Json R → Option Int
  | .int n => if Number.isSigned n then some n else none
  | _ => none

/-- A natural number within 64 bits. -/
def nat? : Json R → Option Nat
  | .int n => if Number.isUnsigned n then some n.toNat else none
  | _ => none

/-- The value of a number, whole or fractional. -/
def number? [Scalar R] : Json R → Option R
  | .int n => some (Scalar.ofInt n)
  | .real x => some x
  | _ => none

/-! ### Objects -/

/-- Sets a member: an old key keeps its place, a new one comes last. -/
def put (key : String) (value : Json R) : List (String × Json R) → List (String × Json R)
  | [] => [(key, value)]
  | (k, v) :: rest => if k = key then (k, value) :: rest else (k, v) :: put key value rest

/-- An object whose absent members are left out. -/
def object (members : List (String × Option (Json R))) : Json R :=
  .obj (members.filterMap fun (k, v) => v.map (k, ·))

/-! ### Comparison and size -/

mutual

/-- Equality of values: members may stand in any order, and a whole number never equals a
fractional one. -/
def same [Scalar R] : Json R → Json R → Bool
  | .null, .null => true
  | .bool a, .bool b => a == b
  | .int m, .int n => m == n
  | .real x, .real y => Scalar.eq x y
  | .str s, .str t => s == t
  | .arr xs, .arr ys => sameItems xs ys
  | .obj ms, .obj ns => ms.length == ns.length && sameMembers ms ns
  | _, _ => false

/-- Equality of lists, item by item. -/
def sameItems [Scalar R] : List (Json R) → List (Json R) → Bool
  | [], [] => true
  | x :: xs, y :: ys => same x y && sameItems xs ys
  | _, _ => false

/-- Whether every member has an equal one among `ns`. -/
def sameMembers [Scalar R] : List (String × Json R) → List (String × Json R) → Bool
  | [], _ => true
  | (k, v) :: rest, ns =>
    (match lookup k ns with
      | some w => same v w
      | none => false) && sameMembers rest ns

end

mutual

/-- How many values a value holds, itself included. -/
def size : Json R → Nat
  | .arr items => 1 + sizeItems items
  | .obj members => 1 + sizeMembers members
  | _ => 1

/-- How many values a list of values holds. -/
def sizeItems : List (Json R) → Nat
  | [] => 0
  | v :: rest => v.size + sizeItems rest

/-- How many values the members of an object hold. -/
def sizeMembers : List (String × Json R) → Nat
  | [] => 0
  | (_, v) :: rest => v.size + sizeMembers rest

end

end Json

end TieredSearch
