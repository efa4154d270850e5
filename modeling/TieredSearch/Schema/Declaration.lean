import TieredSearch.Schema.Basic

/-!
# Declarations in a mapping

Which fields a mapping declares, as a relation: a node with properties passes on what its
children declare, and any other node with a supported type is a field.
-/

namespace TieredSearch.Schema

variable {R : Type}

/-- The children of a node that has properties. -/
def children? (node : List (String × Json R)) : Option (List (String × Json R)) :=
  (Json.lookup "properties" node).bind Json.members?

/-- `Declares w scopes path v f`: the node `v` at a path inside nested objects declares the
field `f`. -/
inductive Declares (w : Walk) : List String → String → Json R → Field → Prop where
  /-- A node without properties whose type is supported. -/
  | leaf {scopes : List String} {path : String} {node : List (String × Json R)} {f : Field}
      (bare : children? node = none) (field : leafField? w scopes path node = some f) :
      Declares w scopes path (.obj node) f
  /-- A child of a node with properties. -/
  | child {scopes : List String} {path name : String} {node children : List (String × Json R)}
      {value : Json R} {f : Field} (inner : children? node = some children)
      (member : (name, value) ∈ children)
      (declared : Declares w (scopesInside scopes path node) (path ++ "." ++ name) value f) :
      Declares w scopes path (.obj node) f

end TieredSearch.Schema
