/-!
# Stable sorting

`stable` puts a list in order and leaves equal elements as they stand; `ascending` lists the
elements of a set of texts once each.
-/

namespace TieredSearch.Sorting

variable {α : Type}

/-- Puts `x` behind the elements it does not come before; the list is given backwards. -/
def place (before : α → α → Bool) (x : α) : List α → List α
  | [] => [x]
  | y :: ys => if before x y then y :: place before x ys else x :: y :: ys

/-- A list in the order of `before`; elements of which neither comes before the other keep
their order. -/
def stable (before : α → α → Bool) (xs : List α) : List α :=
  (xs.foldl (fun sorted x => place before x sorted) []).reverse

/-- Adds a text to an ascending list without repetition. -/
def add (s : String) : List String → List String
  | [] => [s]
  | t :: rest => if s < t then s :: t :: rest else if s = t then t :: rest else t :: add s rest

/-- The texts of a list, ascending and each once. -/
def ascending (ss : List String) : List String := ss.foldr add []

end TieredSearch.Sorting
