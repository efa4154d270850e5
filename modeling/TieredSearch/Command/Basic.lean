import TieredSearch.Filter.Reader
import TieredSearch.Http.PolicyClient
import TieredSearch.Search.Backend
import TieredSearch.Tier.Mediation

/-!
# Commands

What can be asked for at a terminal: the fields of an index, the native form of a filter, and the
mediated aggregations, totals and scopes of a caller. A command works with the services a site
has, whether they are reached over HTTP or held in memory.
-/

namespace TieredSearch

/-- The services of a site. -/
structure Services (R : Type) where
  /-- Whether the search backend is alive. -/
  alive : Except (List String) Unit
  /-- The mapping of an index. -/
  mapping : String → Except (List String) (Json R)
  /-- The reply to a search. -/
  reply : Search R → Reply R
  /-- The grants of a caller. -/
  grants : Credential → Except (List String) GrantTable

/-- Why a command fails. -/
inductive CommandError where
  /-- The query failed. -/
  | query (e : QueryError)
  /-- The filter is no JSON. -/
  | filterNotJson
  /-- The sort order is no JSON. -/
  | sortNotJson
  /-- The search backend is not alive. -/
  | notReachable (reasons : List String)
  /-- The mappings of some indices could not be read. -/
  | refresh (failed : List String)
  /-- A search is never answered. -/
  | unanswered
  deriving DecidableEq, Repr

/-- The outermost message of a failure. -/
def CommandError.message : CommandError → String
  | .query e => e.message
  | .filterNotJson => "Filter is not valid JSON"
  | .sortNotJson => "Sort is not valid JSON"
  | .notReachable _ => "Search backend is not reachable"
  | .refresh failed => Registry.refreshFailure failed
  | .unanswered => "the call never returns"

variable {R : Type} [Scalar R]

namespace Services

/-- The services at the configured addresses. -/
def overHttp (t : Http.Transport R) (c : Config) : Services R :=
  let cluster := Http.SearchClient.ofEndpoint c.backend.endpoint
  let policy := Http.PolicyClient.ofEndpoint c.policy.endpoint
  { alive := cluster.ping t
    mapping := cluster.mapping t
    reply := cluster.reply t
    grants := policy.grants t }

/-- The outcome of an operation against the services. -/
def run {α : Type} (services : Services R) (d : Dialogue R α) : Except CommandError α :=
  match (d.run (fun s (_ : Unit) => (services.reply s, ())) ()).outcome.conclusion? with
  | some (.ok a) => .ok a
  | some (.error e) => .error (.query e)
  | none => .error .unanswered

/-- Checks that the backend is alive and reads all mappings. -/
def connect (services : Services R) (c : Config) (patience : Nat) : Except CommandError Context := do
  services.alive.mapError .notReachable
  match Registry.refresh c (fun index => (services.mapping index).toOption) {} with
  | (.ok _, registry) => return ⟨c, registry, patience⟩
  | (.error failed, _) => throw (.refresh failed)

end Services

namespace Command

/-- The filter in a text; without a text there is none. -/
def parseFilter (text : Option String) : Except CommandError (Option (Filter R)) :=
  match text with
  | none => .ok none
  | some text =>
    match Json.parse? (R := R) text with
    | none => .error .filterNotJson
    | some v => (Filter.ofJson v).mapError .query

/-- A field in an answer. -/
def fieldJson (f : Field) : Json R :=
  .obj [
    ("name", .str f.name), ("kind", .str f.kind.name), ("nested_path", Json.texts f.nestedPath),
    ("is_array", .bool f.isArray), ("searchable", .bool f.searchable)]

/-- The fields of an index. -/
def fields (ctx : Context) (index : String) : Except CommandError (Json R) := do
  let s ← (ctx.schema index).mapError .query
  return .obj [
    ("index", .str s.index), ("content_hash", .str s.contentHash),
    ("fields", .arr (s.sortedFields.map fieldJson))]

/-- The native form of a filter and a sort order. -/
def compile (ctx : Context) (index filter : String) (sort : Option String) :
    Except CommandError (Json R) := do
  let expr : Option (Filter R) ← parseFilter (some filter)
  let query ← (ctx.compileFilter index expr none true none).mapError .query
  let clauses ← match sort with
    | none => .ok none
    | some text =>
      match Json.parse? (R := R) text with
      | none => .error .sortNotJson
      | some order => (ctx.compileSort index order).mapError .query
  let sortJson : Option (Json R) := clauses.map fun cs => .arr (cs.map SortClause.toJson)
  return .obj [
    ("query", (query.map Query.toJson).getD .null),
    ("sort", sortJson.getD .null)]

/-- The scope of a caller. -/
def resolveScope (services : Services R) (ctx : Context) (who : Credential) :
    Except CommandError Scope :=
  services.run (Scope.resolve ctx (services.grants who))

/-- Statistics or a histogram as a caller may see them. -/
def numeric (services : Services R) (ctx : Context) (who : Credential) (index : String)
    (req : AggregationRequest R) (accessibility : Accessibility) : Except CommandError (Json R) := do
  let scope ← resolveScope services ctx who
  let buckets ← services.run ((Mediation.mk ctx scope).numeric index req accessibility)
  return .arr (buckets.map StatBucket.toJson)

/-- Term counts as a caller may see them. -/
def terms (services : Services R) (ctx : Context) (who : Credential) (index : String)
    (req : AggregationRequest R) (accessibility : Accessibility) : Except CommandError (Json R) := do
  let scope ← resolveScope services ctx who
  let buckets ← services.run ((Mediation.mk ctx scope).terms index req accessibility)
  return .arr (buckets.map TermBucket.toJson)

/-- A total as a caller may see it. -/
def count (services : Services R) (ctx : Context) (who : Credential) (index : String)
    (filter : Option (Filter R)) (accessibility : Accessibility) : Except CommandError (Json R) := do
  let scope ← resolveScope services ctx who
  let total ← services.run ((Mediation.mk ctx scope).total index filter accessibility)
  return .obj [("index", .str index), ("count", .int total)]

/-- The paths of a caller's scope; fails where the scope could not be resolved. -/
def scope (services : Services R) (ctx : Context) (who : Credential) :
    Except CommandError (Json R) := do
  let scope ← resolveScope services ctx who
  match scope.degradation with
  | some cause => throw (.query cause)
  | none =>
    return .obj [
      ("accessible", Json.texts scope.accessible), ("unaccessible", Json.texts scope.unaccessible)]

end Command

end TieredSearch
