import TieredSearch.Search.Request

/-!
# Dialogues with a search backend

An operation that searches is a `Dialogue`: it either is done or asks for one search and goes on
with the reply. What a backend replies is left open, so an operation can be run against a store,
a script of replies, or be reasoned about for all of them at once.

A reply may never come. The operation that asked is then *stuck*: it ends only when the time
limit around it elapses (`Dialogue.bounded`), and what runs beside it goes on until then
(`Dialogue.both`).
-/

namespace TieredSearch

/-- What comes back from one search. -/
inductive Reply (R : Type) where
  /-- An answer. -/
  | body (answer : Json R)
  /-- A failure, its reasons outermost first. -/
  | failure (reasons : List String)
  /-- Nothing, ever. -/
  | silence

/-- How an operation ends. -/
inductive Outcome (α : Type) where
  /-- With a value. -/
  | value (a : α)
  /-- With an error. -/
  | failed (e : QueryError)
  /-- Not until the limit around it elapses, which ends it with that fault; without a limit,
  never. -/
  | stuck (limit : Option BackendFault)

/-- What an operation ends with when time goes on; nothing when it never ends. -/
def Outcome.conclusion? {α : Type} : Outcome α → Option (Except QueryError α)
  | .value a => some (.ok a)
  | .failed e => some (.error e)
  | .stuck (some fault) => some (.error (.backendUnavailable fault))
  | .stuck none => none

/-- An operation that searches. -/
inductive Dialogue (R α : Type) where
  /-- It has ended. -/
  | done (outcome : Outcome α)
  /-- It asks for a search and goes on with the reply. -/
  | ask (search : Search R) (next : Reply R → Dialogue R α)

namespace Dialogue

variable {R α β : Type}

/-- An operation that ends at once. -/
protected def pure (a : α) : Dialogue R α := .done (.value a)

/-- Goes on with the value of an operation. -/
protected def bind : Dialogue R α → (α → Dialogue R β) → Dialogue R β
  | .done (.value a), f => f a
  | .done (.failed e), _ => .done (.failed e)
  | .done (.stuck limit), _ => .done (.stuck limit)
  | .ask search next, f => .ask search fun reply => (next reply).bind f

instance : Monad (Dialogue R) where
  pure := Dialogue.pure
  bind := Dialogue.bind

/-- Ends with an error. -/
def fail (e : QueryError) : Dialogue R α := .done (.failed e)

/-- Ends as a computation without searches does. -/
def ofExcept : Except QueryError α → Dialogue R α
  | .ok a => .done (.value a)
  | .error e => .done (.failed e)

/-- One search: its answer, or the failure of the backend. -/
def search (s : Search R) : Dialogue R (Json R) :=
  .ask s fun
    | .body answer => .done (.value answer)
    | .failure reasons => .done (.failed (.backendUnavailable (.failed reasons)))
    | .silence => .done (.stuck none)

/-- A search whose answer is read by `read`. -/
def searchReading (s : Search R) (read : Json R → Except QueryError α) : Dialogue R α :=
  (search s).bind fun answer => ofExcept (read answer)

/-- The operation under a time limit that ends it with `fault`. A limit further inside, started
no later, elapses first. A limit of no time at all elapses as soon as the operation is stuck,
before anything beside it goes on. -/
def bounded (seconds : Nat) (fault : BackendFault) : Dialogue R α → Dialogue R α
  | .done (.stuck limit) =>
    if seconds = 0 then .done (.failed (.backendUnavailable fault))
    else .done (.stuck (limit.or (some fault)))
  | .done outcome => .done outcome
  | .ask s next => .ask s fun reply => (next reply).bounded seconds fault

/-- The operation with its error as a value, also an error by a time limit. -/
def settle : Dialogue R α → Dialogue R (Except QueryError α)
  | .done (.value a) => .done (.value (.ok a))
  | .done (.failed e) => .done (.value (.error e))
  | .done (.stuck (some fault)) => .done (.value (.error (.backendUnavailable fault)))
  | .done (.stuck none) => .done (.stuck none)
  | .ask s next => .ask s fun reply => (next reply).settle

/-- An operation beside one that is stuck under `limit`: it runs to its end, and an error of its
own is reported before the limit elapses; its value is of no use. -/
def besideStuck (limit : Option BackendFault) : Dialogue R α → Dialogue R β
  | .done (.value _) => .done (.stuck limit)
  | .done (.failed e) => .done (.failed e)
  | .done (.stuck own) => .done (.stuck (limit.or own))
  | .ask s next => .ask s fun reply => (next reply).besideStuck limit

/-- Two operations side by side. The first one's searches come first; its error ends both before
the second has asked anything. -/
def both : Dialogue R α → Dialogue R β → Dialogue R (α × β)
  | .done (.value a), second => second.bind fun b => .done (.value (a, b))
  | .done (.failed e), _ => .done (.failed e)
  | .done (.stuck limit), second => second.besideStuck limit
  | .ask s next, second => .ask s fun reply => (next reply).both second

/-- Several operations one after the other, each run to its end. -/
def all : List (Dialogue R α) → Dialogue R (List α)
  | [] => .done (.value [])
  | d :: rest => d.bind fun a => (all rest).bind fun as => .done (.value (a :: as))

/-! ### Running -/

/-- What happened in a run. -/
structure Transcript (σ R α : Type) where
  /-- How the operation ended. -/
  outcome : Outcome α
  /-- The searches it asked for, in order. -/
  searches : List (Search R)
  /-- The backend afterwards. -/
  backend : σ

/-- Runs an operation against a backend with a state. -/
def run {σ : Type} (serve : Search R → σ → Reply R × σ) : Dialogue R α → σ → Transcript σ R α
  | .done outcome, state => ⟨outcome, [], state⟩
  | .ask s next, state =>
    let (reply, state) := serve s state
    let rest := (next reply).run serve state
    { rest with searches := s :: rest.searches }

end Dialogue

end TieredSearch
