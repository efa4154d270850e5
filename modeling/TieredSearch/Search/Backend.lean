import TieredSearch.Store

/-!
# Search backends

A backend is a store of documents, which may be made to refuse, or a script of replies given one
after the other whatever is asked.
-/

namespace TieredSearch

/-- What searches are asked of. -/
inductive Backend (R : Type) where
  /-- A store; while it refuses, every search fails. -/
  | store (st : Store R) (refuses : Bool)
  /-- Replies to the searches to come. -/
  | script (replies : List (Reply R))

namespace Backend

variable {R α : Type} [Scalar R]

/-- The reply to a search, and the backend afterwards. -/
def serve (s : Search R) : Backend R → Reply R × Backend R
  | .store st true => (.failure ["connection refused"], .store st true)
  | .store st false => (.body (st.answer s), .store st false)
  | .script [] => (.failure ["no scripted response"], .script [])
  | .script (reply :: rest) => (reply, .script rest)

/-- More pages than an enumeration can read from the backend before it ends by itself. -/
def patience : Backend R → Nat
  | .store st _ => st.size + 2
  | .script replies => replies.length + 2

/-- Runs an operation against the backend. -/
def run (b : Backend R) (d : Dialogue R α) : Dialogue.Transcript (Backend R) R α :=
  d.run serve b

end Backend

end TieredSearch
