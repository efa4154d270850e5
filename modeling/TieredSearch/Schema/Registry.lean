import TieredSearch.Schema.Basic
import TieredSearch.Config.Basic

/-!
# The registry of schemas

The registry holds the schema of every index whose mapping has been read. A refresh reads every
configured mapping again and replaces the schemas whose mapping has changed; an index whose
mapping cannot be read keeps what it had.
-/

namespace TieredSearch

/-- A schema in the registry. Two entries are the same object exactly when their stamps agree. -/
structure RegistryEntry where
  /-- The schema. -/
  schema : Schema
  /-- When it was entered. -/
  stamp : Nat

/-- The schemas that have been read, by index. -/
structure Registry where
  /-- One entry for each index. -/
  entries : List (String × RegistryEntry) := []
  /-- The stamp of the next entry. -/
  nextStamp : Nat := 0

namespace Registry

/-- The entry of an index. -/
def entry? (r : Registry) (index : String) : Option RegistryEntry :=
  (r.entries.find? (·.1 = index)).map Prod.snd

/-- The schema of an index. -/
def get? (r : Registry) (index : String) : Option Schema := (r.entry? index).map (·.schema)

/-- Enters a schema under its index, in place of what was there. -/
def insert (r : Registry) (schema : Schema) : Registry where
  entries := (schema.index, ⟨schema, r.nextStamp⟩) :: r.entries.filter (·.1 ≠ schema.index)
  nextStamp := r.nextStamp + 1

/-- What became of one index in a refresh. -/
inductive Refreshed where
  /-- The mapping has not changed. -/
  | kept
  /-- The schema was replaced. -/
  | rebuilt
  /-- The mapping could not be read. -/
  | failed
  deriving DecidableEq, Repr

variable {R : Type} [Scalar R]

/-- Reads one index again, given the answer to the request for its mapping. -/
def refreshOne (suffix : String) (index : IndexConfig) (mapping : Option (Json R)) (r : Registry) :
    Refreshed × Registry :=
  match mapping with
  | none => (.failed, r)
  | some mapping =>
    if (r.get? index.index).any (·.contentHash = Schema.contentHashOf mapping) then (.kept, r)
    else
      match Schema.ofMapping index.index index.docType ⟨index.arrayFields, suffix⟩ mapping with
      | .ok schema => (.rebuilt, r.insert schema)
      | .error _ => (.failed, r)

/-- Reads the indices again one after the other. -/
def refreshAll (suffix : String) (fetch : String → Option (Json R)) :
    List IndexConfig → Registry → List (String × Refreshed) × Registry
  | [], r => ([], r)
  | i :: rest, r =>
    let (outcome, r) := refreshOne suffix i (fetch i.index) r
    let (outcomes, r) := refreshAll suffix fetch rest r
    ((i.index, outcome) :: outcomes, r)

/-- Reads every configured mapping again: the number of schemas replaced, or the indices that
failed, in configured order. The others are replaced in either case. -/
def refresh (c : Config) (fetch : String → Option (Json R)) (r : Registry) :
    Except (List String) Nat × Registry :=
  let (outcomes, r) := refreshAll c.aggregation.analyzedSuffix fetch c.indices r
  let failed := (outcomes.filter (·.2 = .failed)).map Prod.fst
  if failed.isEmpty then (.ok (outcomes.filter (·.2 = .rebuilt)).length, r)
  else (.error failed, r)

/-- The message that names the indices a refresh failed for. -/
def refreshFailure (failed : List String) : String :=
  "Schema refresh failed for: " ++ ", ".intercalate failed

end Registry

end TieredSearch
