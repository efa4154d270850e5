import TieredSearch.Filter.Operator
import TieredSearch.Json.Basic

/-!
# Filters

The filter tree of a request. Combinators may be empty; a keyword search without fields covers
every searchable one; a missing-field test is built by the library alone and has no JSON form.
-/

namespace TieredSearch

/-- A filter over documents. -/
inductive Filter (R : Type) where
  /-- Every child holds. -/
  | allOf (children : List (Filter R))
  /-- Some child holds. -/
  | anyOf (children : List (Filter R))
  /-- A field compared with an operand. -/
  | compare (op : Operator) (field : String) (operand : Json R)
  /-- A keyword looked up in text fields. -/
  | search (keyword : String) (fields : List String)
  /-- The field has no value. -/
  | missing (field : String)
  deriving Inhabited

namespace Filter

variable {R : Type}

/-- No value of the field is the text. -/
def differs (field text : String) : Filter R := .compare .ne field (.str text)

/-- Some value of the field is the text. -/
def equals (field text : String) : Filter R := .compare .eq field (.str text)

/-- Some value of the field is among the texts. -/
def isIn (field : String) (texts : List String) : Filter R :=
  .compare .among field (Json.texts texts)

/-- A filter narrowed by one that is always there. -/
def narrowedBy (left : Option (Filter R)) (right : Filter R) : Filter R :=
  match left with
  | some left => .allOf [left, right]
  | none => right

/-- Both filters, as far as they are there. -/
def both : Option (Filter R) → Option (Filter R) → Option (Filter R)
  | some left, some right => some (.allOf [left, right])
  | some left, none => some left
  | none, right => right

end Filter

end TieredSearch
