import TieredSearch.Http.SearchClient
import TieredSearch.Scope.Grant

/-!
# The policy service over HTTP

A client of the service that knows which resource paths the holder of a token may use.
-/

namespace TieredSearch

/-- What a caller proves who they are with. -/
structure Credential where
  /-- The secret token. -/
  token : String

/-- A credential in a log, which never shows the token. -/
def Credential.describe (_ : Credential) : String := "ScopeBuilder \x7b .. \x7d"

namespace Http

/-- A policy service at an address. -/
structure PolicyClient where
  /-- The address, without slashes at its end. -/
  endpoint : String

namespace PolicyClient

variable {R : Type} [Scalar R]

/-- The policy service at an address. -/
def ofEndpoint (endpoint : String) : PolicyClient := ⟨trimSlashes endpoint⟩

/-- The client in a log. -/
def describe (c : PolicyClient) : String :=
  "ArboristClient \x7b endpoint: " ++ Text.quoted c.endpoint ++ " \x7d"

/-- Why a response that is no success was given. -/
def refusal (r : Response) : String :=
  let why :=
    if r.status = 401 || r.status = 403 then "Policy service rejected the token"
    else "Policy service error"
  why ++ " (" ++ statusText r.status ++ "): " ++ r.body

/-- The grants of the holder of a credential. -/
def grants (c : PolicyClient) (t : Transport R) (who : Credential) :
    Except (List String) GrantTable :=
  match t {
      method := .get
      url := c.endpoint ++ "/auth/mapping"
      authorization := some ("Bearer " ++ who.token) } with
  | none => .error ["Failed to reach policy service at " ++ c.endpoint]
  | some r =>
    if !r.isSuccess then .error [refusal r]
    else
      match (Json.parse? (R := R) r.body).bind GrantTable.ofJson? with
      | some table => .ok table
      | none => .error ["Failed to parse auth mapping response", "error decoding response body"]

end PolicyClient

end Http

end TieredSearch
