import TieredSearch.Filter.Basic

/-!
# How filters are written

The grammar of the JSON form of a filter, as a relation. One filter may be written in many ways:
an operator has several names in any case, the fields of a keyword search may be a list, a single
text or missing, the children of an empty combinator may be null, and blank items stand anywhere
between children.
-/

namespace TieredSearch

/-- The names and signs of an operator. -/
def Operator.spellings : Operator → List String
  | .eq => ["eq", "="]
  | .ne => ["ne", "!="]
  | .among => ["in"]
  | .range .gt => ["gt", ">"]
  | .range .gte => ["gte", ">="]
  | .range .lt => ["lt", "<"]
  | .range .lte => ["lte", "<="]

namespace Filter

variable {R : Type}

/-- Whether a value writes no filter: null, or an object without members. -/
def isBlankForm : Json R → Bool
  | .null => true
  | .obj [] => true
  | _ => false

/-- How the fields of a keyword search are written; an absent member is `none`. -/
inductive WritesFields : Option (Json R) → List String → Prop where
  /-- Nothing for no field. -/
  | absent : WritesFields none []
  /-- Null for no field. -/
  | null : WritesFields (some .null) []
  /-- A text for one field. -/
  | single (field : String) : WritesFields (some (.str field)) [field]
  /-- A list of texts. -/
  | list (fields : List String) : WritesFields (some (Json.texts fields)) fields

mutual

/-- `Writes v f`: the value `v` is a way of writing the filter `f`. -/
inductive Writes : Json R → Filter R → Prop where
  /-- A conjunction. -/
  | allOf {key : String} {body : Json R} {children : List (Filter R)}
      (spelled : Text.lowerAscii key = "and") (inner : WritesChildren body children) :
      Writes (.obj [(key, body)]) (.allOf children)
  /-- A disjunction. -/
  | anyOf {key : String} {body : Json R} {children : List (Filter R)}
      (spelled : Text.lowerAscii key = "or") (inner : WritesChildren body children) :
      Writes (.obj [(key, body)]) (.anyOf children)
  /-- A comparison. -/
  | compare {key : String} {op : Operator} (field : String) (operand : Json R)
      (spelled : Text.lowerAscii key ∈ op.spellings) :
      Writes (.obj [(key, .obj [(field, operand)])]) (.compare op field operand)
  /-- A keyword search; other members of its body do not matter. -/
  | search {key keyword : String} {members : List (String × Json R)} {fields : List String}
      (spelled : Text.lowerAscii key = "search")
      (word : Json.lookup "keyword" members = some (.str keyword))
      (named : WritesFields (Json.lookup "fields" members) fields) :
      Writes (.obj [(key, .obj members)]) (.search keyword fields)

/-- How the children of a combinator are written. -/
inductive WritesChildren : Json R → List (Filter R) → Prop where
  /-- Null for no child. -/
  | null : WritesChildren .null []
  /-- A list. -/
  | list {items : List (Json R)} {children : List (Filter R)} (inner : WritesItems items children) :
      WritesChildren (.arr items) children

/-- How a list of filters is written item by item. -/
inductive WritesItems : List (Json R) → List (Filter R) → Prop where
  /-- No item. -/
  | nil : WritesItems [] []
  /-- A blank item. -/
  | blank {item : Json R} {items : List (Json R)} {children : List (Filter R)}
      (empty : isBlankForm item = true) (rest : WritesItems items children) :
      WritesItems (item :: items) children
  /-- An item that writes a child. -/
  | child {item : Json R} {items : List (Json R)} {f : Filter R} {children : List (Filter R)}
      (first : Writes item f) (rest : WritesItems items children) :
      WritesItems (item :: items) (f :: children)

end

mutual

/-- Whether a filter has no missing-field test, which alone cannot be written. -/
def isWritable : Filter R → Bool
  | .allOf children => areWritable children
  | .anyOf children => areWritable children
  | .missing _ => false
  | _ => true

/-- Whether no filter of several has a missing-field test. -/
def areWritable : List (Filter R) → Bool
  | [] => true
  | child :: rest => child.isWritable && areWritable rest

end

end Filter

end TieredSearch
