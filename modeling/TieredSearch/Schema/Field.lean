/-!
# Fields of an index

What the library knows of one field: its kind, and the nested objects around it.
-/

namespace TieredSearch

/-- What the values of a field are compared as. -/
inductive FieldKind where
  /-- Exact texts. -/
  | text
  /-- Numbers. -/
  | numeric
  deriving DecidableEq, Repr

namespace FieldKind

/-- The kind of a mapping type; other types are not fields of a search. -/
def ofMappingType? (name : String) : Option FieldKind :=
  if name ∈ ["keyword", "text", "boolean"] then some .text
  else if name ∈ ["long", "integer", "short", "byte", "double", "float", "half_float",
      "scaled_float", "unsigned_long"] then some .numeric
  else none

/-- The kind in an answer. -/
def name : FieldKind → String
  | .text => "text"
  | .numeric => "numeric"

/-- The kind in a message. -/
def title : FieldKind → String
  | .text => "Text"
  | .numeric => "Numeric"

end FieldKind

/-- One field of an index. -/
structure Field where
  /-- The full name, dotted through the objects around it. -/
  name : String
  /-- What its values are. -/
  kind : FieldKind
  /-- The nested objects around it, outermost first. -/
  nestedPath : List String
  /-- The configuration says that it holds several values. -/
  isArray : Bool
  /-- A text field outside nested objects that has an analyzed form for keyword search. -/
  searchable : Bool
  deriving DecidableEq, Repr

end TieredSearch
