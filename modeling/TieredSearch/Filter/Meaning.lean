import TieredSearch.Filter.Compile
import TieredSearch.Query.Matching

/-!
# What a filter means

The truth of a filter at a document, said without native clauses. A leaf speaks about the values
of its field; a combinator speaks about the children that have a leaf to contribute. The operand
that stands for a missing value is true of a document without the field.
-/

namespace TieredSearch.Filter

open Document (valuesAt numbersAt)

variable {R : Type} [Scalar R]

/-! ### Leaves that take part -/

mutual

/-- Whether some leaf takes part. A leaf on the field `dropped` does not, nor does a blank
search. -/
def contributes (dropped : Option String) : Filter R → Bool
  | .allOf children => anyContributes dropped children
  | .anyOf children => anyContributes dropped children
  | .compare _ field _ => dropped ≠ some field
  | .missing field => dropped ≠ some field
  | .search keyword _ => !Text.isBlank keyword

/-- Whether some leaf of several filters takes part. -/
def anyContributes (dropped : Option String) : List (Filter R) → Bool
  | [] => false
  | child :: rest => child.contributes dropped || anyContributes dropped rest

end

/-- The leaves of a filter, from left to right. -/
def leaves : Filter R → List (Filter R)
  | .allOf children => leavesOf children
  | .anyOf children => leavesOf children
  | leaf => [leaf]
where
  /-- The leaves of several filters. -/
  leavesOf : List (Filter R) → List (Filter R)
    | [] => []
    | child :: rest => child.leaves ++ leavesOf rest

/-- A filter without the comparisons and missing-field tests of one field; nothing when it is
such a leaf itself. -/
def without (field : String) : Filter R → Option (Filter R)
  | .allOf children => some (.allOf (withoutAll children))
  | .anyOf children => some (.anyOf (withoutAll children))
  | .compare op f operand => if f = field then none else some (.compare op f operand)
  | .missing f => if f = field then none else some (.missing f)
  | .search keyword fields => some (.search keyword fields)
where
  /-- Several filters without the leaves of the field. -/
  withoutAll : List (Filter R) → List (Filter R)
    | [] => []
    | child :: rest => (child.without field).toList ++ withoutAll rest

/-! ### Truth -/

/-- Whether some value of a text field is the text, or none is there and the text stands for
that. -/
def hasText (missingAlias : Option String) (doc : Json R) (field text : String) : Bool :=
  if missingAlias = some text then (valuesAt doc field).isEmpty
  else (valuesAt doc field).any (·.equalsOperand (.str text))

/-- Whether some value of a numeric field is the number. -/
def hasNumber (doc : Json R) (field : String) (number : Json R) : Bool :=
  (valuesAt doc field).any (·.equalsOperand number)

/-- Whether a comparison holds at a document. An operand that does not fit the field compares
with nothing. -/
def compares (missingAlias : Option String) (doc : Json R) (op : Operator) (f : Field)
    (operand : Json R) : Bool :=
  match op, f.kind with
  | .eq, .text => (textOperand f.name operand).toOption.any (hasText missingAlias doc f.name)
  | .ne, .text => (textOperand f.name operand).toOption.any (!hasText missingAlias doc f.name ·)
  | .among, .text =>
    (listedOperands f.name operand).toOption.any (·.any (hasText missingAlias doc f.name))
  | .eq, .numeric => (numericOperand f.name operand).toOption.any (hasNumber doc f.name)
  | .ne, .numeric => (numericOperand f.name operand).toOption.any (!hasNumber doc f.name ·)
  | .range b, .numeric =>
    ((numericOperand f.name operand).toOption.bind Json.number?).any fun limit =>
      (numbersAt doc f.name).any (b.admits limit)
  | _, _ => false

/-- Whether a keyword search holds at a document: a searchable field mentions the keyword. -/
def finds (t : Target) (doc : Json R) (keyword : String) (fields : List String) : Bool :=
  (if fields.isEmpty then t.schema.searchableFields else fields).any fun field =>
    Query.mentions keyword doc (field ++ "." ++ t.analyzedSuffix)

mutual

/-- Whether a filter holds at a document. Only children that contribute are asked. -/
def holds (t : Target) (dropped : Option String) : Filter R → Json R → Bool
  | .allOf children, doc => holdsAll t dropped children doc
  | .anyOf children, doc => holdsSome t dropped children doc
  | .compare op field operand, doc =>
    (t.schema.field? field).any fun f => compares t.missingAlias doc op f operand
  | .missing field, doc => (valuesAt doc field).isEmpty
  | .search keyword fields, doc => finds t doc keyword fields

/-- Whether every filter that contributes holds. -/
def holdsAll (t : Target) (dropped : Option String) : List (Filter R) → Json R → Bool
  | [], _ => true
  | child :: rest, doc =>
    (!child.contributes dropped || child.holds t dropped doc) && holdsAll t dropped rest doc

/-- Whether some filter that contributes holds. -/
def holdsSome (t : Target) (dropped : Option String) : List (Filter R) → Json R → Bool
  | [], _ => false
  | child :: rest, doc =>
    (child.contributes dropped && child.holds t dropped doc) || holdsSome t dropped rest doc

end

end TieredSearch.Filter
