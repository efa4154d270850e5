import TieredSearch.Json.Basic

/-!
# Values inside a document

A field is a dotted path into a document. Lists along the path are looked through, so a field
may have several values, or none.
-/

namespace TieredSearch.Document

variable {R : Type}

/-! ### Paths -/

/-- The parts of a text between the points. -/
def splitAtPoints : List Char → List (List Char)
  | [] => [[]]
  | c :: rest =>
    match splitAtPoints rest with
    | [] => [[c]]
    | part :: parts => if c = '.' then [] :: part :: parts else (c :: part) :: parts

/-- The segments of a dotted path. -/
def segments (path : String) : List String := (splitAtPoints path.toList).map String.ofList

/-! ### Values at a path -/

/-- The items of a list, or the value itself. -/
def spread : Json R → List (Json R)
  | .arr items => items
  | v => [v]

/-- What a value holds under one segment; null counts as nothing. -/
def child (segment : String) (v : Json R) : List (Json R) :=
  match v.get? segment with
  | none => []
  | some .null => []
  | some w => spread w

/-- One step down a path from several values. -/
def descend (values : List (Json R)) (segment : String) : List (Json R) :=
  (values.flatMap (child segment)).flatMap spread

/-- The values of a field, in the order they stand in the document. -/
def valuesAt (doc : Json R) (path : String) : List (Json R) :=
  ((segments path).foldl descend [doc]).filter fun v => !v.isNull

/-- The texts of a field. -/
def textsAt (doc : Json R) (path : String) : List String := (valuesAt doc path).filterMap Json.str?

/-- Whether a field has no values but texts. -/
def holdsTexts (doc : Json R) (path : String) : Bool :=
  (valuesAt doc path).all fun v => v.str?.isSome

/-- The numbers of a field. -/
def numbersAt [Scalar R] (doc : Json R) (path : String) : List R :=
  (valuesAt doc path).filterMap Json.number?

/-! ### Narrowing to one element -/

mutual

/-- The value with everything under a path replaced by one element. Lists on the way are kept
and replaced in each item; where the path leads nowhere nothing changes. -/
def replaceAt (element : Json R) : Json R → List String → Json R
  | _, [] => element
  | .obj members, head :: rest => .obj (replaceMember element head rest members)
  | .arr items, path => .arr (replaceItems element path items)
  | v, _ => v

/-- The members with the one named `head` replaced further down. -/
def replaceMember (element : Json R) (head : String) (rest : List String) :
    List (String × Json R) → List (String × Json R)
  | [] => []
  | (k, v) :: more =>
    if k = head then (k, replaceAt element v rest) :: more
    else (k, v) :: replaceMember element head rest more

/-- Replacement in every item of a list. -/
def replaceItems (element : Json R) (path : List String) : List (Json R) → List (Json R)
  | [] => []
  | v :: more => replaceAt element v path :: replaceItems element path more

end

/-- The document as it looks from one element of the nested objects at a path. -/
def narrow (doc : Json R) (path : String) (element : Json R) : Json R :=
  replaceAt element doc (segments path)

/-- A document as it looks from each chain of nested elements, one element for each path. -/
def narrowings : List String → Json R → List (Json R)
  | [], doc => [doc]
  | path :: rest, doc =>
    (valuesAt doc path).flatMap fun element => narrowings rest (narrow doc path element)

end TieredSearch.Document
