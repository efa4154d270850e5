import TieredSearch.Command.Basic
import TieredSearch.Json.Reader

/-!
# Snapshots of a site

A snapshot holds in memory what the services of a site would answer: the mappings of its indices,
their documents, and the grants of its callers by token. It is written as an object with the
members `mappings`, `documents` and `grants`, each of which may be missing.
-/

namespace TieredSearch

/-- What the services of a site hold. -/
structure Snapshot (R : Type) where
  /-- The mapping of each index. -/
  mappings : List (String × Json R) := []
  /-- The documents. -/
  store : Store R := {}
  /-- The grants of each token. -/
  grants : List (String × GrantTable) := []

namespace Snapshot

variable {R : Type}

/-- The members of a section that may be missing. -/
def sectionOf? (v : Json R) (name : String) : Option (List (String × Json R)) :=
  match v.get? name with
  | none => some []
  | some part => part.members?

/-- The documents of each index. -/
def storeOf? : List (String × Json R) → Option (Store R)
  | [] => some {}
  | (index, docs) :: rest => do
    let docs ← docs.items?
    let st ← storeOf? rest
    return st.add index docs

/-- The grants of each token. -/
def grantsOf? : List (String × Json R) → Option (List (String × GrantTable))
  | [] => some []
  | (token, grants) :: rest => do
    let table ← GrantTable.ofJson? grants
    return (token, table) :: (← grantsOf? rest)

/-- The snapshot an object writes. -/
def ofJson? (v : Json R) : Option (Snapshot R) := do
  let mappings ← sectionOf? v "mappings"
  let store ← (sectionOf? v "documents").bind storeOf?
  let grants ← (sectionOf? v "grants").bind grantsOf?
  return ⟨mappings, store, grants⟩

variable [Scalar R]

/-- The snapshot a text writes. -/
def ofText? (text : String) : Option (Snapshot R) := (Json.parse? text).bind ofJson?

/-- The services of the site. -/
def services (s : Snapshot R) : Services R where
  alive := .ok ()
  mapping index :=
    match Json.lookup index s.mappings with
    | some mapping => .ok mapping
    | none => .error ["Index not found: " ++ index]
  reply q := .body (s.store.answer q)
  grants who :=
    match s.grants.lookup who.token with
    | some table => .ok table
    | none => .error ["Policy service rejected the token"]

/-- More pages than an enumeration can read from the snapshot. -/
def patience (s : Snapshot R) : Nat := (Backend.store s.store false).patience

end Snapshot

end TieredSearch
