/-!
# Access levels

Each index is served at a level, and a caller says which part of the data is asked for.
-/

namespace TieredSearch

/-- How much of an index a caller may learn. -/
inductive AccessLevel where
  /-- Everything, without interception. -/
  | libre
  /-- Everything, but small counts of data out of scope are suppressed. -/
  | regular
  /-- For a whole site only: every index has its own level. -/
  | granular
  /-- Only what the caller is granted. -/
  | restricted
  deriving DecidableEq, Repr

/-- Which part of the data a request is about. -/
inductive Accessibility where
  /-- All data. -/
  | all
  /-- Data the caller is granted. -/
  | accessible
  /-- Data the caller is not granted. -/
  | unaccessible
  deriving DecidableEq, Repr

namespace AccessLevel

/-- The name of a level. -/
def name : AccessLevel → String
  | .libre => "libre"
  | .regular => "regular"
  | .granular => "granular"
  | .restricted => "private"

/-- The level of a name. -/
def ofName? (text : String) : Option AccessLevel :=
  [AccessLevel.libre, .regular, .granular, .restricted].find? fun l => l.name = text

end AccessLevel

namespace Accessibility

/-- The name of a part. -/
def name : Accessibility → String
  | .all => "all"
  | .accessible => "accessible"
  | .unaccessible => "unaccessible"

/-- The part of a name. -/
def ofName? (text : String) : Option Accessibility :=
  [Accessibility.all, .accessible, .unaccessible].find? fun a => a.name = text

end Accessibility

end TieredSearch
