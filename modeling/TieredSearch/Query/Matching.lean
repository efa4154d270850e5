import TieredSearch.Query.Basic
import TieredSearch.Query.Document
import TieredSearch.Text.Lower

/-!
# When a document matches a query

`Query.selects` is the meaning of the native clauses: what the store answers by, and what
compiled filters are judged against.
-/

namespace TieredSearch

variable {R : Type} [Scalar R]

/-- Equality of a stored value and an operand: numbers by value, and a truth value also equals
its name. -/
def Json.equalsOperand (v operand : Json R) : Bool :=
  match v.number?, operand.number? with
  | some x, some y => Scalar.eq x y
  | _, _ =>
    match v, operand with
    | .bool b, .str s | .str s, .bool b => s = if b then "true" else "false"
    | _, _ => v.same operand

/-- Whether a number lies within a bound. -/
def Bound.admits : Bound → R → R → Bool
  | .gt, limit, x => Scalar.lt limit x
  | .gte, limit, x => Scalar.le limit x
  | .lt, limit, x => Scalar.lt x limit
  | .lte, limit, x => Scalar.le x limit

namespace Query

open Document (valuesAt numbersAt narrow)

/-- Takes a suffix off the end of a text as often as it stands there, both given backwards. -/
def dropEnding (ending : List Char) : Nat → List Char → List Char
  | 0, s => s
  | n + 1, s => if ending.isPrefixOf s then dropEnding ending n (s.drop ending.length) else s

/-- The field whose analyzed form a keyword search names. -/
def plainField (analyzed : String) : String :=
  String.ofList (dropEnding ".analyzed".toList.reverse analyzed.length analyzed.toList.reverse).reverse

/-- Whether a keyword occurs in a text of a field, whatever the case of the letters. -/
def mentions (keyword : String) (doc : Json R) (analyzed : String) : Bool :=
  (valuesAt doc (plainField analyzed)).any fun v =>
    match v.str? with
    | some s => Text.occursIn (Text.lower keyword) (Text.lower s)
    | none => false

mutual

/-- Whether a document matches a clause. -/
def selects : Query R → Json R → Bool
  | .allOf clauses, doc => selectsAll clauses doc
  | .anyOf clauses, doc => clauses.isEmpty || selectsAny clauses doc
  | .noneOf clause, doc => !clause.selects doc
  | .term field operand, doc => (valuesAt doc field).any (·.equalsOperand operand)
  | .terms field operands, doc =>
    (valuesAt doc field).any fun v => operands.any fun s => v.equalsOperand (.str s)
  | .range field bound limit, doc =>
    match limit.number? with
    | some l => (numbersAt doc field).any (bound.admits l)
    | none => false
  | .present field, doc => !(valuesAt doc field).isEmpty
  | .nested path clause, doc =>
    (valuesAt doc path).any fun element => clause.selects (narrow doc path element)
  | .multiMatch keyword fields, doc => fields.any (mentions keyword doc)

/-- Whether a document matches every clause. -/
def selectsAll : List (Query R) → Json R → Bool
  | [], _ => true
  | q :: rest, doc => q.selects doc && selectsAll rest doc

/-- Whether a document matches some clause. -/
def selectsAny : List (Query R) → Json R → Bool
  | [], _ => false
  | q :: rest, doc => q.selects doc || selectsAny rest doc

end

/-- Whether a document passes a restriction that may be absent. -/
def admits (restriction : Option (Query R)) (doc : Json R) : Bool :=
  match restriction with
  | some q => q.selects doc
  | none => true

end Query

end TieredSearch
