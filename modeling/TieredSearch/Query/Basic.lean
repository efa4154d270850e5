import TieredSearch.Filter.Operator
import TieredSearch.Json.Basic

/-!
# Native queries

The clauses a search backend understands, as far as a compiled filter uses them, and the JSON
they are sent as.
-/

namespace TieredSearch

/-- A clause over documents. -/
inductive Query (R : Type) where
  /-- Every clause holds. -/
  | allOf (clauses : List (Query R))
  /-- Some clause holds. -/
  | anyOf (clauses : List (Query R))
  /-- The clause does not hold. -/
  | noneOf (clause : Query R)
  /-- Some value of the field equals the operand. -/
  | term (field : String) (operand : Json R)
  /-- Some value of the field is one of the texts. -/
  | terms (field : String) (operands : List String)
  /-- Some number of the field lies within the bound. -/
  | range (field : String) (bound : Bound) (limit : Json R)
  /-- The field has a value. -/
  | present (field : String)
  /-- The clause holds within a single element of the nested objects at the path. -/
  | nested (path : String) (clause : Query R)
  /-- The keyword occurs in one of the analyzed fields. -/
  | multiMatch (keyword : String) (fields : List String)
  deriving Inhabited

namespace Query

variable {R : Type}

/-- A clause inside nested scopes, the first path outermost. -/
def nestedIn (paths : List String) (clause : Query R) : Query R := paths.foldr .nested clause

/-- Conjunction of the clauses there are: none for no clause, and one stands for itself. -/
def conjunction? : List (Query R) → Option (Query R)
  | [] => none
  | [q] => some q
  | qs => some (.allOf qs)

/-- The JSON that asks for all of the clauses. -/
def mustJson (clauses : List (Json R)) : Json R :=
  .obj [("bool", .obj [("must", .arr clauses)])]

/-- The JSON that asks for one of the clauses at least. -/
def shouldJson (clauses : List (Json R)) : Json R :=
  .obj [("bool", .obj [("should", .arr clauses), ("minimum_should_match", .int 1)])]

mutual

/-- The JSON of a clause. -/
def toJson : Query R → Json R
  | .allOf clauses => mustJson (toJsons clauses)
  | .anyOf clauses => shouldJson (toJsons clauses)
  | .noneOf clause => .obj [("bool", .obj [("must_not", .arr [toJson clause])])]
  | .term field operand => .obj [("term", .obj [(field, operand)])]
  | .terms field operands => .obj [("terms", .obj [(field, Json.texts operands)])]
  | .range field bound limit => .obj [("range", .obj [(field, .obj [(bound.name, limit)])])]
  | .present field => .obj [("exists", .obj [("field", .str field)])]
  | .nested path clause => .obj [("nested", .obj [("path", .str path), ("query", toJson clause)])]
  | .multiMatch keyword fields =>
    .obj [("multi_match", .obj [("query", .str keyword), ("fields", Json.texts fields)])]

/-- The JSON of clauses, one by one. -/
def toJsons : List (Query R) → List (Json R)
  | [] => []
  | q :: rest => toJson q :: toJsons rest

end

end Query

end TieredSearch
