import TieredSearch.Json.Basic
import TieredSearch.Sorting

/-!
# Grants

The policy service says, for each resource path, which methods of which services a caller may
use. A path is readable when one of its grants allows reading through the configured service.
-/

namespace TieredSearch

/-- One permission on a resource path. -/
structure Grant where
  /-- The service, or a star for all of them. -/
  service : String
  /-- The method, or a star for all of them. -/
  method : String
  deriving DecidableEq, Repr

/-- Whether a grant allows reading through a service. -/
def Grant.allowsRead (g : Grant) (service : String) : Bool :=
  (g.method = "read" || g.method = "*") && (g.service = service || g.service = "*")

/-- The grants of a caller by resource path, each path once. -/
abbrev GrantTable := List (String × List Grant)

namespace GrantTable

/-- The paths a service may read, ascending. -/
def readable (table : GrantTable) (service : String) : List String :=
  Sorting.ascending ((table.filter fun (_, grants) => grants.any (·.allowsRead service)).map Prod.fst)

variable {R : Type}

/-- A grant: an object with a service and a method, or a list of the two. -/
def grant? : Json R → Option Grant
  | .obj members => do
    let service ← (Json.lookup "service" members).bind Json.str?
    let method ← (Json.lookup "method" members).bind Json.str?
    return ⟨service, method⟩
  | .arr [.str service, .str method] => some ⟨service, method⟩
  | _ => none

/-- The grants of one path. -/
def grants? : Json R → Option (List Grant)
  | .arr items => items.mapM grant?
  | _ => none

/-- The grants of every path. -/
def ofMembers? : List (String × Json R) → Option GrantTable
  | [] => some []
  | (path, value) :: rest => do
    let grants ← grants? value
    return (path, grants) :: (← ofMembers? rest)

/-- The table a policy service answers with. -/
def ofJson? : Json R → Option GrantTable
  | .obj members => ofMembers? members
  | _ => none

end GrantTable

end TieredSearch
