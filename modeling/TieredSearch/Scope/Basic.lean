import TieredSearch.Aggregation.Terms
import TieredSearch.Scope.Grant
import TieredSearch.Tier.Level

/-!
# The scope of a caller

The scope of a caller splits the resource paths stored in the configured indices into those the
caller may read and the others. Documents without a path are reported under a reserved key that
nobody can be granted. When the grants or the paths cannot be found out, the scope is degraded:
nothing is accessible, and nothing is known to be out of reach.
-/

namespace TieredSearch

/-- The key of documents that hold no resource path. -/
def unownedKey : String := "__unowned__"

/-- What a caller may read. -/
structure Scope where
  /-- The paths the caller may read, ascending. -/
  accessible : List String
  /-- The stored paths the caller may not read, ascending. -/
  unaccessible : List String
  /-- The field that holds the paths. -/
  authField : String
  /-- Why the scope could not be resolved, if it could not. -/
  degradation : Option QueryError

namespace Scope

variable {R : Type} [Scalar R]

/-! ### Resolving -/

/-- The scope of a caller whose grants or paths cannot be found out. -/
def degraded (authField : String) (cause : QueryError) : Scope := ⟨[], [], authField, some cause⟩

/-- The enumeration of the resource paths that pass a filter. -/
def pathsRequest (authField : String) (filter : Option (Filter R)) (excludeField : Option String)
    (filterSelf : Bool) : TermsRequest R where
  field := authField
  filter := filter
  excludeField := excludeField
  filterSelf := filterSelf
  extra := none
  missingKey := some unownedKey

/-- The paths a caller with these grants may read. The reserved key is never among them. -/
def readablePaths (ctx : Context) (table : GrantTable) : List String :=
  (table.readable ctx.config.policy.service).filter (· ≠ unownedKey)

/-- The keys of buckets that are not among the accessible ones, in the order of the buckets. -/
def outside (accessible : List String) (buckets : List TermBucket) : List String :=
  (buckets.map (·.key)).filter fun key => !accessible.contains key

/-- All listings, or the first one that failed. -/
def listings : List (Except QueryError (List TermBucket)) → Except QueryError (List TermBucket)
  | [] => .ok []
  | .error e :: _ => .error e
  | .ok buckets :: rest => (listings rest).map (buckets ++ ·)

/-- The scope that follows from the grants and the paths listed in every index. -/
def ofListings (ctx : Context) (accessible : List String)
    (results : List (Except QueryError (List TermBucket))) : Scope :=
  match listings results with
  | .ok buckets => {
      accessible := accessible
      unaccessible := Sorting.ascending (outside accessible buckets)
      authField := ctx.config.aggregation.authField
      degradation := none }
  | .error e => degraded ctx.config.aggregation.authField e

/-- Resolves the scope of a caller from the answer of the policy service and the paths stored in
the configured indices. -/
def resolve (ctx : Context) (grants : Except (List String) GrantTable) : Dialogue R Scope :=
  let authField := ctx.config.aggregation.authField
  match grants with
  | .error reasons => .done (.value (degraded authField (.policyUnavailable reasons)))
  | .ok table =>
    let request : TermsRequest R := pathsRequest authField none none true
    (Dialogue.all (ctx.config.indexNames.map fun index => (request.run ctx index).settle)).bind
      fun results => .done (.value (ofListings ctx (readablePaths ctx table) results))

/-- Whether the scope could not be resolved. -/
def isDegraded (scope : Scope) : Bool := scope.degradation.isSome

/-! ### Restricting -/

/-- The paths that pass a filter and that the caller may not read, in the order of the listing. -/
def outOfScope (ctx : Context) (scope : Scope) (index : String) (filter : Option (Filter R))
    (excludeField : Option String) (filterSelf : Bool) : Dialogue R (List String) :=
  ((pathsRequest scope.authField filter excludeField filterSelf).run ctx index).bind
    fun buckets => .done (.value (outside scope.accessible buckets))

/-- Documents that hold one of the paths; the reserved key asks for those that hold none. -/
def membership (scope : Scope) (paths : List String) : Filter R :=
  let listed := Filter.isIn scope.authField (paths.filter (· ≠ unownedKey))
  if paths.contains unownedKey then .anyOf [listed, .missing scope.authField] else listed

/-- Documents that hold an accessible path. -/
def accessibleMembership (scope : Scope) : Filter R := scope.membership scope.accessible

/-- Documents that hold a path out of reach, or none. -/
def unaccessibleMembership (scope : Scope) : Filter R := scope.membership scope.unaccessible

/-- A filter narrowed to accessible documents. -/
def applyAccessible (scope : Scope) (filter : Option (Filter R)) : Filter R :=
  Filter.narrowedBy filter scope.accessibleMembership

/-- A filter narrowed to documents out of reach. -/
def applyUnaccessible (scope : Scope) (filter : Option (Filter R)) : Filter R :=
  Filter.narrowedBy filter scope.unaccessibleMembership

/-- The restriction to a part of the data; none for all of it. -/
def restriction (scope : Scope) : Accessibility → Option (Filter R)
  | .all => none
  | .accessible => some (scope.applyAccessible none)
  | .unaccessible => some (scope.applyUnaccessible none)

end Scope

end TieredSearch
