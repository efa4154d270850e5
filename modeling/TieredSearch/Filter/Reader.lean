import TieredSearch.Filter.Basic
import TieredSearch.Json.Printer
import TieredSearch.Error

/-!
# Reading filters

A filter is written as an object with one member: a combinator over a list of filters, a keyword
search, or an operator over `field: operand`. Null and the empty object are no filter, and are
skipped inside a combinator. Keys may be written in any case.
-/

namespace TieredSearch.Filter

variable {R : Type} [Scalar R]

/-- What the key of a filter object announces. -/
inductive Head where
  /-- Every child holds. -/
  | all
  /-- Some child holds. -/
  | any
  /-- A keyword search. -/
  | search
  /-- A comparison. -/
  | compare (op : Operator)

/-- What a key announces. -/
def Head.ofKey? (key : String) : Option Head :=
  match Text.lowerAscii key with
  | "and" => some .all
  | "or" => some .any
  | "search" => some .search
  | _ => (Operator.ofText? key).map .compare

/-- The fields a keyword search names. -/
def searchFields : Option (Json R) → Except QueryError (List String)
  | none | some .null => .ok []
  | some (.str field) => .ok [field]
  | some (.arr items) =>
    match items.mapM Json.str? with
    | some fields => .ok fields
    | none => .error (.invalidFilter .searchFieldNotText)
  | some _ => .error (.invalidFilter .searchFieldsNotAList)

/-- A keyword search; members other than the keyword and the fields are ignored. -/
def ofSearchBody (body : Json R) : Except QueryError (Filter R) :=
  match (body.get? "keyword").bind Json.str? with
  | none => .error (.invalidFilter .keywordMissing)
  | some keyword => (searchFields (body.get? "fields")).map (.search keyword)

/-- A comparison of one field. -/
def ofOperandBody (key : String) (op : Operator) : Json R → Except QueryError (Filter R)
  | .obj [(field, operand)] => .ok (.compare op field operand)
  | .obj members => .error (.invalidFilter (.operandNotOneField key members.length))
  | _ => .error (.invalidFilter (.operandNotAnObject key))

mutual

/-- The filter a JSON value writes, if it writes one. -/
def ofJson : Json R → Except QueryError (Option (Filter R))
  | .null => .ok none
  | .obj [] => .ok none
  | .obj [(key, body)] =>
    match Head.ofKey? key with
    | some .all => (childrenOf key body).map fun children => some (.allOf children)
    | some .any => (childrenOf key body).map fun children => some (.anyOf children)
    | some .search => (ofSearchBody body).map some
    | some (.compare op) => (ofOperandBody key op body).map some
    | none => .error (.invalidFilter (.unknownOperator key))
  | .obj (_ :: _ :: _) => .error (.invalidFilter .severalOperators)
  | value => .error (.invalidFilter (.notAnObject value.compact))

/-- The children of a combinator. -/
def childrenOf (key : String) : Json R → Except QueryError (List (Filter R))
  | .null => .ok []
  | .arr items => ofItems items
  | _ => .error (.invalidFilter (.childrenNotAList key))

/-- The filters a list writes. -/
def ofItems : List (Json R) → Except QueryError (List (Filter R))
  | [] => .ok []
  | item :: rest =>
    match ofJson item with
    | .error e => .error e
    | .ok none => ofItems rest
    | .ok (some child) => (ofItems rest).map (child :: ·)

end

end TieredSearch.Filter
