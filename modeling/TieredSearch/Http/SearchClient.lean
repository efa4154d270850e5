import TieredSearch.Http.Exchange
import TieredSearch.Json.Reader
import TieredSearch.Search.Dialogue
import TieredSearch.Text.Quoted

/-!
# The search backend over HTTP

A client of a search cluster: a check that it is alive, the mapping of an index, and searches.
Failures are reasons, outermost first.
-/

namespace TieredSearch.Http

/-- A search cluster at an address. -/
structure SearchClient where
  /-- The address, without slashes at its end. -/
  endpoint : String

namespace SearchClient

variable {R : Type} [Scalar R]

/-- The cluster at an address. -/
def ofEndpoint (endpoint : String) : SearchClient := ⟨trimSlashes endpoint⟩

/-- The client in a log. -/
def describe (c : SearchClient) : String :=
  "EsClient \x7b endpoint: " ++ Text.quoted c.endpoint ++ " \x7d"

/-- Why a response that is no success was given. -/
def refusal (r : Response) : String :=
  let why :=
    if r.status = 404 then "Index not found"
    else if r.status = 400 then "Search backend rejected the query"
    else if r.status = 401 || r.status = 403 then "Search backend authentication failed"
    else "Search backend error"
  why ++ " (" ++ statusText r.status ++ "): " ++ r.body

/-- The text of a successful response. -/
def send (t : Transport R) (unreached : String) (request : Request R) :
    Except (List String) String :=
  match t request with
  | none => .error [unreached]
  | some r => if r.isSuccess then .ok r.body else .error [refusal r]

/-- The JSON in a text. -/
def readJson (unread : String) (text : String) : Except (List String) (Json R) :=
  match Json.parse? text with
  | some v => .ok v
  | none => .error [unread, "error decoding response body"]

/-- Whether the cluster is alive. -/
def ping (c : SearchClient) (t : Transport R) : Except (List String) Unit :=
  (send t ("Failed to reach search backend at " ++ c.endpoint)
    { method := .get, url := c.endpoint ++ "/" }).map fun _ => ()

/-- The mapping of an index. -/
def mapping (c : SearchClient) (t : Transport R) (index : String) : Except (List String) (Json R) :=
  (send t ("Failed to send mapping request for " ++ index)
    { method := .get, url := c.endpoint ++ "/" ++ index ++ "/_mapping" }).bind
    (readJson ("Failed to parse mapping response for " ++ index))

/-- The answer to a search that is given by its JSON. -/
def searchBody (c : SearchClient) (t : Transport R) (index : String) (body : Json R) :
    Except (List String) (Json R) :=
  (send t ("Failed to send search request for " ++ index)
    { method := .post, url := c.endpoint ++ "/" ++ index ++ "/_search", body := some body }).bind
    (readJson ("Failed to parse search response for " ++ index))

/-- The reply to a search. -/
def reply (c : SearchClient) (t : Transport R) (s : Search R) : Reply R :=
  match c.searchBody t s.index s.body with
  | .ok answer => .body answer
  | .error reasons => .failure reasons

end SearchClient

end TieredSearch.Http
