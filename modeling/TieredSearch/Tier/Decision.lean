import TieredSearch.Scope.Basic

/-!
# What a request may see

The level of the index, the scope of the caller and the part of the data that is asked for decide
which restriction a request runs under, and whether its counts have a shadow.
-/

namespace TieredSearch

/-- How a request is answered. -/
inductive Strategy where
  /-- As if there were no access control. -/
  | passThrough
  /-- From accessible documents only. -/
  | accessibleOnly
  /-- From documents out of reach only, small counts suppressed. -/
  | unaccessibleOnly
  /-- From all documents, small counts out of scope suppressed. -/
  | allWithRedaction
  deriving DecidableEq, Repr

/-- What is run for a request. -/
structure Decision (R : Type) where
  /-- How the request is answered. -/
  strategy : Strategy
  /-- The restriction the request runs under. -/
  scopeFilter : Option (Filter R)
  /-- The restriction its shadow runs under, if counts are suppressed. -/
  shadowFilter : Option (Filter R)

/-- What is known of a request before it is run. -/
structure TierRequest (R : Type) where
  /-- The caller's filter. -/
  filter : Option (Filter R)
  /-- The field whose own leaves are left out. -/
  excludeField : Option String
  /-- Whether they count nevertheless. -/
  filterSelf : Bool
  /-- The part of the data that is asked for. -/
  accessibility : Accessibility
  /-- Whether rows are asked for. -/
  rawData : Bool

namespace Decision

variable {R : Type} [Scalar R]

/-- Whether counts are suppressed. -/
def redacts (d : Decision R) : Bool := d.shadowFilter.isSome

/-- No interception. -/
def passThrough : Decision R := ⟨.passThrough, none, none⟩

/-- Accessible documents only. -/
def accessibleOnly (scope : Scope) : Decision R :=
  ⟨.accessibleOnly, some scope.accessibleMembership, none⟩

/-- Hides records with the sensitive mark that are not accessible. -/
def sensitiveExclusion (ctx : Context) (scope : Scope) : Option (Filter R) :=
  ctx.config.tier.sensitiveField.map fun field =>
    .anyOf [scope.accessibleMembership, .differs field "true"]

/-- Documents out of reach only, which are their own shadow. -/
def unaccessibleOnly (ctx : Context) (scope : Scope) : Decision R :=
  let restriction := Filter.narrowedBy (sensitiveExclusion ctx scope) scope.unaccessibleMembership
  ⟨.unaccessibleOnly, some restriction, some restriction⟩

/-- All documents, with those out of reach as the shadow. -/
def allWithRedaction (ctx : Context) (scope : Scope) : Decision R :=
  let exclusion := sensitiveExclusion ctx scope
  ⟨.allWithRedaction, exclusion, some (Filter.narrowedBy exclusion scope.unaccessibleMembership)⟩

/-- The decision on a regular index, given the paths out of scope that the request touches. -/
def regular (ctx : Context) (scope : Scope) (req : TierRequest R) (outOfScope : List String) :
    Except QueryError (Decision R) :=
  if outOfScope.isEmpty then
    match req.accessibility with
    | .accessible => .ok passThrough
    | .unaccessible => .ok (unaccessibleOnly ctx scope)
    | .all => .ok (allWithRedaction ctx scope)
  else if req.rawData then
    match req.accessibility with
    | .accessible => .ok (accessibleOnly scope)
    | _ => .error .forbidden
  else if scope.isDegraded then .ok (accessibleOnly scope)
  else
    match req.accessibility with
    | .all => .ok (allWithRedaction ctx scope)
    | .accessible => .ok (accessibleOnly scope)
    | .unaccessible => .ok (unaccessibleOnly ctx scope)

/-- The level an index is served at, once its schema is known. -/
def level (ctx : Context) (index : String) : Except QueryError AccessLevel := do
  let _ ← ctx.schema index
  match ctx.config.effectiveLevel index with
  | some level => return level
  | none => throw (.internal (.noAccessLevel index))

/-- The decision on a request. A regular index is asked which paths the request touches. -/
def make (ctx : Context) (scope : Scope) (index : String) (req : TierRequest R) :
    Dialogue R (Decision R) :=
  (Dialogue.ofExcept (level ctx index)).bind fun
    | .libre => .done (.value passThrough)
    | .restricted => .done (.value (accessibleOnly scope))
    | .regular | .granular =>
      (scope.outOfScope ctx index req.filter req.excludeField req.filterSelf).bind fun paths =>
        Dialogue.ofExcept (regular ctx scope req paths)

end Decision

end TieredSearch
