import TieredSearch.Config.Basic
import TieredSearch.Toml.Reader

/-!
# Reading a configuration

A configuration is a TOML document. Keys it does not know are ignored; a table may also be given
as a list of its values in order, and a level as a table with the level's name as its only key
and nothing inside.
-/

namespace TieredSearch.Config

/-- The values of a section by the names of its keys. -/
structure Section where
  /-- The value of a key. -/
  get? : String → Option Toml
  /-- The section was given as a list, in which only a default makes up for a missing value. -/
  isList : Bool

/-- The values of a section: the members of a table, or the items of a list in the order of the
keys. A date is a section that gives no value. -/
def section? (keys : List String) : Toml → Option Section
  | .table members => some ⟨fun key => Toml.lookup key members, false⟩
  | .arr items => some ⟨fun key => (keys.zip items).lookup key, true⟩
  | .dateTime _ => some ⟨fun _ => none, false⟩
  | _ => none

namespace Section

variable {α : Type}

/-- A value that has to be there. -/
def required? (s : Section) (key : String) (read : Toml → Option α) : Option α :=
  (s.get? key).bind read

/-- A value with a default. -/
def withDefault? (s : Section) (key : String) (standard : α) (read : Toml → Option α) : Option α :=
  match s.get? key with
  | some v => read v
  | none => some standard

/-- A value that may be missing from a table. -/
def optional? (s : Section) (key : String) (read : Toml → Option α) : Option (Option α) :=
  match s.get? key with
  | some v => (read v).map some
  | none => if s.isList then none else some none

end Section

/-! ### Values -/

/-- A text. -/
def text? : Toml → Option String
  | .str s => some s
  | _ => none

/-- A whole number. -/
def int? : Toml → Option Int
  | .int n => some n
  | _ => none

/-- A number that is not negative. -/
def nat? : Toml → Option Nat
  | .int n => if 0 ≤ n then some n.toNat else none
  | _ => none

/-- A truth value. -/
def bool? : Toml → Option Bool
  | .bool b => some b
  | _ => none

/-- A list of texts. -/
def texts? : Toml → Option (List String)
  | .arr items => items.mapM text?
  | _ => none

/-- A level. -/
def level? : Toml → Option AccessLevel
  | .str s => AccessLevel.ofName? s
  | .table [(key, .table [])] | .table [(key, .arr [])] => AccessLevel.ofName? key
  | _ => none

/-! ### Sections -/

/-- The section of the search backend. -/
def backend? (v : Toml) : Option BackendConfig := do
  let s ← section? ["endpoint", "timeout_seconds"] v
  let endpoint ← s.required? "endpoint" text?
  let timeout ← s.withDefault? "timeout_seconds" 30 nat?
  return { endpoint := endpoint, timeoutSeconds := timeout }

/-- The section of the policy service. -/
def policy? (v : Toml) : Option PolicyConfig := do
  let s ← section? ["endpoint", "service", "timeout_seconds"] v
  let endpoint ← s.required? "endpoint" text?
  let service ← s.withDefault? "service" "guppy" text?
  let timeout ← s.withDefault? "timeout_seconds" 10 nat?
  return { endpoint := endpoint, service := service, timeoutSeconds := timeout }

/-- The section of what is disclosed. -/
def tier? (v : Toml) : Option TierConfig := do
  let s ← section? ["level", "limit", "sensitive_record_exclusion_field", "whitelist"] v
  let level ← s.optional? "level" level?
  let limit ← s.optional? "limit" int?
  let sensitive ← s.optional? "sensitive_record_exclusion_field" text?
  let whitelist ← s.withDefault? "whitelist" ({} : TierConfig).whitelist texts?
  return { level := level, limit := limit, sensitiveField := sensitive, whitelist := whitelist }

/-- The section of aggregations. -/
def aggregation? (v : Toml) : Option AggregationConfig := do
  let s ← section? ["auth_field", "include_missing", "missing_data_alias", "analyzed_suffix",
    "page_size", "timeout_seconds"] v
  let standard : AggregationConfig := {}
  let authField ← s.withDefault? "auth_field" standard.authField text?
  let includeMissing ← s.withDefault? "include_missing" standard.includeMissing bool?
  let missingAlias ← s.withDefault? "missing_data_alias" standard.missingAlias text?
  let analyzedSuffix ← s.withDefault? "analyzed_suffix" standard.analyzedSuffix text?
  let pageSize ← s.withDefault? "page_size" standard.pageSize nat?
  let timeout ← s.withDefault? "timeout_seconds" standard.timeoutSeconds nat?
  return {
    authField := authField
    includeMissing := includeMissing
    missingAlias := missingAlias
    analyzedSuffix := analyzedSuffix
    pageSize := pageSize
    timeoutSeconds := timeout }

/-- The section of one index. -/
def indexOf? (v : Toml) : Option IndexConfig := do
  let s ← section? ["index", "doc_type", "tier_access_level", "array_fields"] v
  let index ← s.required? "index" text?
  let docType ← s.optional? "doc_type" text?
  let level ← s.optional? "tier_access_level" level?
  let arrayFields ← s.withDefault? "array_fields" [] texts?
  return { index := index, docType := docType, level := level, arrayFields := arrayFields }

/-- The sections of all indices. -/
def indices? : Toml → Option (List IndexConfig)
  | .arr items => items.mapM indexOf?
  | _ => none

/-- The configuration a document holds. -/
def ofToml? (v : Toml) : Option Config := do
  let s ← section? ["backend", "policy", "tier", "aggregation", "indices"] v
  let backend ← s.required? "backend" backend?
  let policy ← s.required? "policy" policy?
  let tier ← s.withDefault? "tier" {} tier?
  let aggregation ← s.withDefault? "aggregation" {} aggregation?
  let indices ← s.required? "indices" indices?
  return ⟨backend, policy, tier, aggregation, indices⟩

/-! ### Files -/

/-- Why a configuration file cannot be used. -/
inductive LoadFault where
  /-- There is no such file. -/
  | unreadable
  /-- It is no configuration. -/
  | unparsable
  /-- The configuration is refused. -/
  | refused (fault : ConfigFault)
  deriving DecidableEq, Repr

/-- The wording of a fault, without the file it is about. -/
def LoadFault.message : LoadFault → String
  | .unreadable => "Failed to read config file"
  | .unparsable => "Failed to parse config file"
  | .refused fault => fault.message

/-- The configuration in a file's text, if there is such a file. -/
def load (text : Option String) : Except LoadFault Config :=
  match text with
  | none => .error .unreadable
  | some text =>
    match (Toml.parse? text).bind ofToml? with
    | none => .error .unparsable
    | some c => (c.validate.mapError .refused).map fun _ => c

end TieredSearch.Config
