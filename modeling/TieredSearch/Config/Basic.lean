import TieredSearch.Tier.Level

/-!
# Configuration

What a site configures: where the search backend and the policy service are, how much each index
discloses, and how aggregations treat missing data. Defaults stand beside the fields.
-/

namespace TieredSearch

/-- Where the search backend is. -/
structure BackendConfig where
  /-- The address of the service. -/
  endpoint : String
  /-- How long one request may take. -/
  timeoutSeconds : Nat := 30
  deriving Repr, DecidableEq

/-- Where the policy service is. -/
structure PolicyConfig where
  /-- The address of the service. -/
  endpoint : String
  /-- The service name that grants are looked up for. -/
  service : String := "guppy"
  /-- How long one request may take. -/
  timeoutSeconds : Nat := 10
  deriving Repr, DecidableEq

/-- What is disclosed. -/
structure TierConfig where
  /-- The level of the whole site; without one every index has its own. -/
  level : Option AccessLevel := none
  /-- Counts below it are suppressed. -/
  limit : Option Int := none
  /-- A field whose value `true` hides a record out of scope. -/
  sensitiveField : Option String := none
  /-- Keys whose counts are never suppressed. -/
  whitelist : List String := ["__missing__", "unknown", "not reported", "no data"]
  deriving Repr, DecidableEq

/-- How aggregations work. -/
structure AggregationConfig where
  /-- The field that holds the resource path of a document. -/
  authField : String := "auth_resource_path"
  /-- Documents without a field are reported under the alias. -/
  includeMissing : Bool := true
  /-- The key that stands for a missing value. -/
  missingAlias : String := "no data"
  /-- The name of the analyzed form of a text field. -/
  analyzedSuffix : String := "analyzed"
  /-- How many terms one page holds. -/
  pageSize : Nat := 10000
  /-- How long an enumeration, or a mediated query, may take. -/
  timeoutSeconds : Nat := 60
  deriving Repr, DecidableEq

/-- One index. -/
structure IndexConfig where
  /-- Its name. -/
  index : String
  /-- The mapping type, where mappings still have types. -/
  docType : Option String := none
  /-- Its own level. -/
  level : Option AccessLevel := none
  /-- Fields that hold several values. -/
  arrayFields : List String := []
  deriving Repr, DecidableEq

/-- The configuration of a site. -/
structure Config where
  /-- The search backend. -/
  backend : BackendConfig
  /-- The policy service. -/
  policy : PolicyConfig
  /-- What is disclosed. -/
  tier : TierConfig := {}
  /-- How aggregations work. -/
  aggregation : AggregationConfig := {}
  /-- The indices, in the order they are searched. -/
  indices : List IndexConfig
  deriving Repr, DecidableEq

/-- Why a configuration is refused. -/
inductive ConfigFault where
  /-- No index at all. -/
  | noIndex
  /-- Pages without terms. -/
  | emptyPages
  /-- An index without a level of its own where it needs one. -/
  | levelMissing (index : String)
  /-- An index that refers to its own level for its level. -/
  | levelGranular (index : String)
  /-- Suppression without a limit. -/
  | limitMissing
  /-- A limit below zero. -/
  | limitNegative (limit : Int)
  deriving Repr, DecidableEq

/-- The wording of a refusal. -/
def ConfigFault.message : ConfigFault → String
  | .noIndex => "At least one [[indices]] entry is required"
  | .emptyPages => "aggregation.page_size must be positive"
  | .levelMissing index =>
    "Index " ++ index ++ " needs tier_access_level when the site-wide level is granular or unset"
  | .levelGranular index => "Index " ++ index ++ " cannot use tier_access_level granular"
  | .limitMissing => "tier.limit is required when any index uses the regular level"
  | .limitNegative limit => "tier.limit must not be negative, got " ++ toString limit

namespace Config

/-- The level of the whole site, when it decides. -/
def siteLevel (c : Config) : Option AccessLevel :=
  c.tier.level.filter (· ≠ .granular)

/-- The configuration of an index. -/
def index? (c : Config) (name : String) : Option IndexConfig :=
  c.indices.find? (·.index = name)

/-- The names of the indices, in order. -/
def indexNames (c : Config) : List String := c.indices.map (·.index)

/-- The level an index is served at: the site's, or else its own. -/
def effectiveLevel (c : Config) (name : String) : Option AccessLevel :=
  c.siteLevel.or ((c.index? name).bind (·.level))

/-- Whether suppression is in force for one of the indices; fails at the first index without a
usable level. -/
def usesRegular (site : Option AccessLevel) : List IndexConfig → Except ConfigFault Bool
  | [] => .ok (site = some .regular)
  | i :: rest =>
    match site, i.level with
    | none, none => .error (.levelMissing i.index)
    | none, some .granular => .error (.levelGranular i.index)
    | none, some own => (usesRegular site rest).map (own = .regular || ·)
    | some _, _ => usesRegular site rest

/-- Accepts a configuration under which every index has a usable level. -/
def validate (c : Config) : Except ConfigFault Unit := do
  if c.indices.isEmpty then throw .noIndex
  if c.aggregation.pageSize = 0 then throw .emptyPages
  let needsLimit ← usesRegular c.siteLevel c.indices
  match c.tier.limit with
  | none => if needsLimit then throw .limitMissing
  | some limit => if limit < 0 then throw (.limitNegative limit)

/-- The key that stands for missing values, when they are reported. -/
def missingAlias (c : Config) : Option String :=
  if c.aggregation.includeMissing then some c.aggregation.missingAlias else none

end Config

end TieredSearch
