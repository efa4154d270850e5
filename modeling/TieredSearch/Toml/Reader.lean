import TieredSearch.Toml.Document
import TieredSearch.Toml.Text

/-!
# Reading TOML

`Toml.parse?` reads a whole document. Values and dotted keys may be nested less than 80 deep.
-/

namespace TieredSearch.Toml

/-- The depth that values and keys stay below. -/
def depthLimit : Nat := 80

/-- Drops the blanks of a line. -/
def skipBlanks (s : List Char) : List Char := s.dropWhile isBlank

/-- Drops a comment up to the end of its line. -/
def skipComment : List Char → List Char
  | '#' :: rest => rest.dropWhile isTextChar
  | rest => rest

/-- Drops blanks, comments and line ends. -/
def skipFiller : Nat → List Char → List Char
  | 0, s => s
  | fuel + 1, s =>
    match skipBlanks s with
    | '#' :: rest => skipFiller fuel (rest.dropWhile isTextChar)
    | s =>
      match afterNewline? s with
      | some rest => skipFiller fuel rest
      | none => s

/-! ### Keys -/

/-- The characters of an unquoted key. -/
def isKeyChar (c : Char) : Bool := c.isAlphanum || c = '_' || c = '-'

/-- One part of a key, and the rest. -/
def keyPart? (s : List Char) : Option (String × List Char) :=
  match s with
  | '"' :: rest => quotedKey? '"' rest
  | '\'' :: rest => quotedKey? '\'' rest
  | s =>
    let (part, rest) := s.span isKeyChar
    if part.isEmpty then none else some (String.ofList part, rest)

/-- The parts of a key between its points, and the rest, blanks dropped. -/
def keyParts? : Nat → List Char → Option (List String × List Char)
  | 0, _ => none
  | fuel + 1, s => do
    let (part, rest) ← keyPart? (skipBlanks s)
    match skipBlanks rest with
    | '.' :: rest =>
      let (parts, rest) ← keyParts? fuel rest
      return (part :: parts, rest)
    | rest => return ([part], rest)

/-- A key: the path before its last part, the last part, and the rest. -/
def key? (s : List Char) : Option (List String × String × List Char) := do
  let (parts, rest) ← keyParts? (s.length + 1) s
  let last ← parts.getLast?
  if depthLimit ≤ parts.length then none
  else return (parts.dropLast, last, rest)

/-! ### Values -/

mutual

/-- A value and the rest. Every step reads a character, so fuel beyond the length of the text is
never used up. -/
def value? : Nat → Nat → List Char → Option (Toml × List Char)
  | 0, _, _ => none
  | fuel + 1, depth, s =>
    match s with
    | '"' :: rest => (quoted? '"' rest).map fun (text, rest) => (.str text, rest)
    | '\'' :: rest => (quoted? '\'' rest).map fun (text, rest) => (.str text, rest)
    | '[' :: rest =>
      if depthLimit ≤ depth + 1 then none
      else (items? fuel (depth + 1) rest).map fun (items, rest) => (.arr items, rest)
    | '\x7b' :: rest =>
      if depthLimit ≤ depth + 1 then none
      else
        match skipBlanks rest with
        | '\x7d' :: rest => some (.table [], rest)
        | rest =>
          (pairs? fuel (depth + 1) Node.root rest).map fun (node, rest) => (node.finish, rest)
    | s =>
      let (word, rest) := takeWord s
      (scalar? word).map (·, rest)

/-- The items of a list up to its closing bracket. -/
def items? : Nat → Nat → List Char → Option (List Toml × List Char)
  | 0, _, _ => none
  | fuel + 1, depth, s =>
    match skipFiller (s.length + 1) s with
    | ']' :: rest => some ([], rest)
    | s => do
      let (item, rest) ← value? fuel depth s
      match skipFiller (rest.length + 1) rest with
      | ',' :: rest =>
        let (items, rest) ← items? fuel depth rest
        return (item :: items, rest)
      | ']' :: rest => return ([item], rest)
      | _ => none

/-- The members of an inline table up to its closing brace. -/
def pairs? : Nat → Nat → Node → List Char → Option (Node × List Char)
  | 0, _, _, _ => none
  | fuel + 1, depth, node, s => do
    let (path, key, rest) ← key? s
    let rest ← after? '=' rest
    let (v, rest) ← value? fuel depth (skipBlanks rest)
    let node ← node.defineAt path key v
    match skipBlanks rest with
    | ',' :: rest => pairs? fuel depth node rest
    | '\x7d' :: rest => return (node, rest)
    | _ => none

end

/-! ### Documents -/

/-- A document being read: what it holds, and the table that keys go to. -/
structure Reading where
  /-- What has been read. -/
  node : Node
  /-- The path of the last header. -/
  header : List String

/-- The header of a table. -/
def header? (r : Reading) (s : List Char) : Option (Reading × List Char) := do
  let (path, key, rest) ← key? s
  let rest ← after? ']' rest
  let node ← r.node.changeAt false (Node.openTable key) path
  return (⟨node, path ++ [key]⟩, rest)

/-- The header of a table in a list. -/
def itemHeader? (r : Reading) (s : List Char) : Option (Reading × List Char) := do
  let (path, key, rest) ← key? s
  let rest ← (after? ']' rest).bind (after? ']')
  let node ← r.node.changeAt false (Node.openItem key) path
  return (⟨node, path ++ [key]⟩, rest)

/-- A key and its value. -/
def definition? (r : Reading) (s : List Char) : Option (Reading × List Char) := do
  let (path, key, rest) ← key? s
  let rest ← after? '=' rest
  let rest := skipBlanks rest
  let (v, rest) ← value? (2 * rest.length + 2) 0 rest
  let node ← r.node.changeAt false (Node.defineAt path key v) r.header
  return ({ r with node := node }, rest)

/-- What stands on a line besides blanks and a comment. -/
def expression? (r : Reading) (s : List Char) : Option (Reading × List Char) :=
  match s with
  | [] | '#' :: _ | '\n' :: _ | '\r' :: _ => some (r, s)
  | '[' :: '[' :: rest => itemHeader? r rest
  | '[' :: rest => header? r rest
  | s => definition? r s

/-- The lines of a document; each step reads one. -/
def lines? : Nat → Reading → List Char → Option Node
  | 0, _, _ => none
  | fuel + 1, r, s => do
    let (r, rest) ← expression? r (skipBlanks s)
    let rest := skipComment (skipBlanks rest)
    match rest with
    | [] => return r.node
    | rest => lines? fuel r (← afterNewline? rest)

/-- The table a whole text writes. A byte order mark at its beginning is ignored. -/
def parse? (text : String) : Option Toml :=
  let s := match text.toList with
    | '\uFEFF' :: rest => rest
    | s => s
  (lines? (s.length + 1) ⟨.root, []⟩ s).map Node.finish

end TieredSearch.Toml
