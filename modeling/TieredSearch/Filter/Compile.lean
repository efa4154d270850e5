import TieredSearch.Filter.Basic
import TieredSearch.Json.Printer
import TieredSearch.Number.Numeral
import TieredSearch.Query.Basic
import TieredSearch.Schema.Basic
import TieredSearch.Error
import TieredSearch.Text.Characters

/-!
# Compiling filters

A filter is compiled against the schema of one index into a native query, or into none when no
leaf of it contributes a clause.

Fields inside nested objects are reached through nested scopes. A combinator whose leaves all lie
below a common nested path opens that path once, so that its leaves speak about one and the same
element; the scopes already opened are handed down as `opened`. A missing value is written in two
ways: the alias as an operand stands for the absence of the field, and a missing-field test says
so directly.
-/

namespace TieredSearch.Filter

variable {R : Type} [Scalar R]

/-- What a filter is compiled against. -/
structure Target where
  /-- The fields of the index. -/
  schema : Schema
  /-- The operand that stands for a missing value. -/
  missingAlias : Option String
  /-- The name of the analyzed form of a text field. -/
  analyzedSuffix : String

/-! ### Leaves -/

/-- The field of a name, or the fault that it is unknown. -/
def Target.field (t : Target) (name : String) : Except QueryError Field :=
  match t.schema.field? name with
  | some f => .ok f
  | none => .error (.invalidFilter (.unknownField name t.schema.index))

/-- The text an operand stands for in a text field. -/
def textOperand (field : String) : Json R → Except QueryError String
  | .str s => .ok s
  | .int n => .ok (toString n)
  | .real x => .ok (Scalar.text x)
  | .bool b => .ok (if b then "true" else "false")
  | operand => .error (.invalidFilter (.textOperand operand.compact field))

/-- The number an operand stands for in a numeric field. -/
def numericOperand (field : String) : Json R → Except QueryError (Json R)
  | .int n => .ok (.int n)
  | .real x => .ok (.real x)
  | .str s =>
    match Number.numeral? (R := R) (Text.trim s) with
    | some x => .ok (.real x)
    | none => .error (.invalidFilter (.numericText s field))
  | operand => .error (.invalidFilter (.numericOperand operand.compact field))

/-- The texts an operand lists for a text field. -/
def textOperands (field : String) : List (Json R) → Except QueryError (List String)
  | [] => .ok []
  | operand :: rest => do
    let s ← textOperand field operand
    return s :: (← textOperands field rest)

/-- The texts an operand lists, which must be a list. -/
def listedOperands (field : String) : Json R → Except QueryError (List String)
  | .arr operands => textOperands field operands
  | _ => .error (.invalidFilter (.membersNotAList field))

/-- Some value of the field is among the texts, or it has none if the alias is one of them. -/
def membership (missingAlias : Option String) (scopes : List String) (field : String)
    (texts : List String) : Query R :=
  let stored := texts.filter fun s => missingAlias ≠ some s
  let listed := Query.nestedIn scopes (.terms field stored)
  let absent := Query.noneOf (.nestedIn scopes (.present field))
  if stored.length = texts.length then listed
  else if stored.isEmpty then absent
  else .anyOf [listed, absent]

/-- A comparison inside the scopes that are still to be opened. -/
def compileCompare (missingAlias : Option String) (op : Operator) (f : Field) (operand : Json R)
    (scopes : List String) : Except QueryError (Query R) :=
  let isPresent : Query R := .nestedIn scopes (.present f.name)
  match op, f.kind with
  | .eq, .text => do
    let s ← textOperand f.name operand
    return if missingAlias = some s then .noneOf isPresent else .nestedIn scopes (.term f.name (.str s))
  | .ne, .text => do
    let s ← textOperand f.name operand
    return if missingAlias = some s then isPresent else .noneOf (.nestedIn scopes (.term f.name (.str s)))
  | .eq, .numeric => do
    let n ← numericOperand f.name operand
    return .nestedIn scopes (.term f.name n)
  | .ne, .numeric => do
    let n ← numericOperand f.name operand
    return .noneOf (.nestedIn scopes (.term f.name n))
  | .among, .text => do
    let texts ← listedOperands f.name operand
    return membership missingAlias scopes f.name texts
  | .range b, .numeric => do
    let n ← numericOperand f.name operand
    return .nestedIn scopes (.range f.name b n)
  | op, kind => .error (.invalidFilter (.unsupportedOperator op kind f.name))

/-- The field of a keyword search, which must be searchable. -/
def Target.searchTarget (t : Target) (name : String) : Except QueryError String :=
  match t.schema.field? name with
  | some f => if f.searchable then .ok f.name else .error (.invalidFilter (.notSearchable name))
  | none => .error (.invalidFilter (.unknownField name t.schema.index))

/-- The fields of a keyword search one by one. -/
def Target.searchTargets (t : Target) : List String → Except QueryError (List String)
  | [] => .ok []
  | name :: rest => do
    let target ← t.searchTarget name
    return target :: (← t.searchTargets rest)

/-- A keyword search; a blank keyword contributes nothing. -/
def compileSearch (t : Target) (keyword : String) (fields : List String) :
    Except QueryError (Option (Query R)) :=
  if Text.isBlank keyword then .ok none
  else do
    let targets ← if fields.isEmpty then .ok t.schema.searchableFields else t.searchTargets fields
    if targets.isEmpty then throw (.invalidFilter (.nothingSearchable t.schema.index))
    return some (.multiMatch keyword (targets.map fun f => f ++ "." ++ t.analyzedSuffix))

/-! ### Nested scopes -/

/-- The paths two lists of scopes begin with in common. -/
def sharedStart : List String → List String → List String
  | p :: ps, q :: qs => if p = q then p :: sharedStart ps qs else []
  | _, _ => []

/-- The scopes shared by two parts of a filter, of which either may contribute nothing. -/
def sharedScopes : Option (List String) → Option (List String) → Option (List String)
  | some a, some b => some (sharedStart a b)
  | some a, none => some a
  | none, b => b

mutual

/-- The longest nested path shared by every leaf that contributes, if any leaf does. A leaf on
the field `dropped` does not. -/
def nestedScopes (t : Target) (dropped : Option String) : Filter R → Option (List String)
  | .allOf children => nestedScopesAll t dropped children
  | .anyOf children => nestedScopesAll t dropped children
  | .compare _ field _ => if dropped = some field then none else some (t.schema.nestedPath field)
  | .missing field => if dropped = some field then none else some (t.schema.nestedPath field)
  | .search keyword _ => if Text.isBlank keyword then none else some []

/-- The longest nested path shared by every contributing leaf of several filters. -/
def nestedScopesAll (t : Target) (dropped : Option String) : List (Filter R) → Option (List String)
  | [] => none
  | child :: rest => sharedScopes (nestedScopes t dropped child) (nestedScopesAll t dropped rest)

end

/-- The scopes a combinator works in: its own when they go deeper than those already open. -/
def scopesFor (shared : Option (List String)) (opened : List String) : List String :=
  match shared with
  | some scopes => if opened.length < scopes.length then scopes else opened
  | none => opened

/-- The part of a path that the open scopes do not cover. -/
def unopened (path opened : List String) : List String := path.drop opened.length

/-! ### Trees -/

mutual

/-- The clause of a filter within open scopes; none when no leaf of it contributes. -/
def compileWithin (t : Target) (dropped : Option String) :
    Filter R → List String → Except QueryError (Option (Query R))
  | .allOf children, opened =>
    let scopes := scopesFor (nestedScopesAll t dropped children) opened
    (compileEach t dropped children scopes).map fun clauses =>
      if clauses.isEmpty then none
      else some (.nestedIn (unopened scopes opened) (.allOf clauses))
  | .anyOf children, opened =>
    let scopes := scopesFor (nestedScopesAll t dropped children) opened
    (compileEach t dropped children scopes).map fun clauses =>
      if clauses.isEmpty then none
      else some (.nestedIn (unopened scopes opened) (.anyOf clauses))
  | .compare op field operand, opened =>
    if dropped = some field then .ok none
    else do
      let f ← t.field field
      let clause ← compileCompare t.missingAlias op f operand (unopened f.nestedPath opened)
      return some clause
  | .missing field, opened =>
    if dropped = some field then .ok none
    else do
      let f ← t.field field
      return some (.noneOf (.nestedIn (unopened f.nestedPath opened) (.present f.name)))
  | .search keyword fields, _ => compileSearch t keyword fields

/-- The clauses of the children that contribute one, in order. -/
def compileEach (t : Target) (dropped : Option String) :
    List (Filter R) → List String → Except QueryError (List (Query R))
  | [], _ => .ok []
  | child :: rest, opened => do
    let clause ← compileWithin t dropped child opened
    let clauses ← compileEach t dropped rest opened
    return clause.toList ++ clauses

end

/-- The clause of a filter that may be absent. -/
def compileOptional (t : Target) (dropped : Option String) :
    Option (Filter R) → Except QueryError (Option (Query R))
  | some f => compileWithin t dropped f []
  | none => .ok none

/-- Compiles the caller's filter, less its leaves on `excludeField` unless `filterSelf` keeps
them, together with a restriction of which nothing is ever left out. -/
def compile (t : Target) (user : Option (Filter R)) (excludeField : Option String)
    (filterSelf : Bool) (extra : Option (Filter R)) : Except QueryError (Option (Query R)) := do
  let user ← compileOptional t (if filterSelf then none else excludeField) user
  let scope ← compileOptional t none extra
  return match user, scope with
    | some user, some scope => some (.allOf [user, scope])
    | some clause, none => some clause
    | none, clause => clause

end TieredSearch.Filter
