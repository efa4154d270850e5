import TieredSearch.Toml.Scalar

/-!
# Quoted TOML texts

Double quotes allow escapes, single quotes do not; either may be tripled for texts over several
lines, in which a line end is one character however it is written.
-/

namespace TieredSearch.Toml

/-- What follows a line end. -/
def afterNewline? : List Char → Option (List Char)
  | '\n' :: rest => some rest
  | '\r' :: '\n' :: rest => some rest
  | _ => none

/-- Whether a character may stand in a text or a comment as it is. -/
def isTextChar (c : Char) : Bool := c = '\t' || (32 ≤ c.toNat && c.toNat ≠ 127)

/-- The character of a code point that is one. -/
def ofCodePoint? (n : Nat) : Option Char := if n.isValidChar then some (Char.ofNat n) else none

/-- The character that a number of hexadecimal digits write. -/
def codePoint? (ds : List Char) : Option Char :=
  if ds.all isHexDigit then ofCodePoint? (ds.foldl (fun n c => n * 16 + digitValue c) 0) else none

/-- The character after a backslash, and the rest. -/
def escape? : List Char → Option (Char × List Char)
  | 'b' :: rest => some ('\x08', rest)
  | 't' :: rest => some ('\t', rest)
  | 'n' :: rest => some ('\n', rest)
  | 'f' :: rest => some ('\x0c', rest)
  | 'r' :: rest => some ('\r', rest)
  | '"' :: rest => some ('"', rest)
  | '\\' :: rest => some ('\\', rest)
  | 'u' :: rest =>
    if rest.length < 4 then none else (codePoint? (rest.take 4)).map (·, rest.drop 4)
  | 'U' :: rest =>
    if rest.length < 8 then none else (codePoint? (rest.take 8)).map (·, rest.drop 8)
  | _ => none

/-- A blank inside a line. -/
def isBlank (c : Char) : Bool := c = ' ' || c = '\t'

/-- What follows the blanks and line ends that a backslash at the end of a line joins. -/
def skipLines : Nat → List Char → List Char
  | 0, s => s
  | fuel + 1, s =>
    let s := s.dropWhile isBlank
    match afterNewline? s with
    | some rest => skipLines fuel rest
    | none => s

/-- The end of a text in tripled quotes: up to two more quotes belong to the text. -/
def closing? (q : Char) : List Char → Option (List Char × List Char)
  | a :: b :: c :: d :: e :: rest =>
    if a = q && b = q && c = q then
      if d = q then if e = q then some ([q, q], rest) else some ([q], e :: rest)
      else some ([], d :: e :: rest)
    else none
  | [a, b, c, d] =>
    if a = q && b = q && c = q then if d = q then some ([q], []) else some ([], [d]) else none
  | [a, b, c] => if a = q && b = q && c = q then some ([], []) else none
  | _ => none

/-- The text up to its closing quote, and the rest. Every step reads a character. -/
def textBody? (q : Char) (escapes : Bool) : Nat → List Char → Option (List Char × List Char)
  | 0, _ => none
  | fuel + 1, s =>
    match s with
    | [] => none
    | c :: rest =>
      if c = q then some ([], rest)
      else if escapes && c = '\\' then do
        let (x, rest) ← escape? rest
        let (cs, rest) ← textBody? q escapes fuel rest
        return (x :: cs, rest)
      else if isTextChar c then do
        let (cs, rest) ← textBody? q escapes fuel rest
        return (c :: cs, rest)
      else none

/-- The text up to its tripled closing quotes, and the rest. -/
def linesBody? (q : Char) (escapes : Bool) : Nat → List Char → Option (List Char × List Char)
  | 0, _ => none
  | fuel + 1, s =>
    match closing? q s with
    | some closed => some closed
    | none =>
      match afterNewline? s with
      | some rest => do
        let (cs, rest) ← linesBody? q escapes fuel rest
        return ('\n' :: cs, rest)
      | none =>
        match s with
        | [] => none
        | c :: rest =>
          if escapes && c = '\\' then
            if (afterNewline? (rest.dropWhile isBlank)).isSome then
              linesBody? q escapes fuel (skipLines (rest.length + 1) rest)
            else do
              let (x, rest) ← escape? rest
              let (cs, rest) ← linesBody? q escapes fuel rest
              return (x :: cs, rest)
          else if isTextChar c then do
            let (cs, rest) ← linesBody? q escapes fuel rest
            return (c :: cs, rest)
          else none

/-- A text in single or tripled quotes `q`, of which one has been read. -/
def quoted? (q : Char) (s : List Char) : Option (String × List Char) :=
  let escapes := q = '"'
  let body := match s with
    | a :: b :: rest =>
      if a = q && b = q then
        linesBody? q escapes (rest.length + 1) ((afterNewline? rest).getD rest)
      else textBody? q escapes (s.length + 1) s
    | s => textBody? q escapes (s.length + 1) s
  body.map fun (cs, rest) => (String.ofList cs, rest)

/-- A text in single quotes `q` on one line, of which one has been read. -/
def quotedKey? (q : Char) (s : List Char) : Option (String × List Char) :=
  (textBody? q (q = '"') (s.length + 1) s).map fun (cs, rest) => (String.ofList cs, rest)

end TieredSearch.Toml
