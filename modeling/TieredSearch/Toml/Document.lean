import TieredSearch.Toml.Value

/-!
# Building a TOML document

Headers and dotted keys open tables; a table may be opened by a header once, and a table made by
dotted keys is not opened by a header, nor the other way round. A header in double brackets adds
a table to a list. Nothing is ever defined twice.
-/

namespace TieredSearch.Toml

/-- A part of a document that may still grow. -/
inductive Node where
  /-- A finished value. -/
  | value (v : Toml)
  /-- A table. It is implicit until a header opens it, and dotted when keys made it. -/
  | table (implicit dotted : Bool) (members : List (String × Node))
  /-- A list of tables, of which only the last one grows. -/
  | tables (items : List Node)
  deriving Inhabited

namespace Node

/-- The part under a key among members. -/
def lookup (key : String) : List (String × Node) → Option Node
  | [] => none
  | (k, n) :: rest => if k = key then some n else lookup key rest

/-- Sets the part under a key. -/
def put (key : String) (node : Node) : List (String × Node) → List (String × Node)
  | [] => [(key, node)]
  | (k, n) :: rest => if k = key then (k, node) :: rest else (k, n) :: put key node rest

/-- Changes the last one of a list. -/
def changeLast (change : Node → Option Node) : List Node → Option (List Node)
  | [] => none
  | [n] => (change n).map ([·])
  | n :: rest => (changeLast change rest).map (n :: ·)

/-- Changes the table a path leads to, making the tables on the way. Along dotted keys a table
that a header opened is not entered. -/
def changeAt (dotted : Bool) (change : Node → Option Node) : List String → Node → Option Node
  | [], node => change node
  | key :: rest, .table implicit own members =>
    match lookup key members with
    | none =>
      (changeAt dotted change rest (.table true dotted [])).map fun n =>
        .table implicit own (put key n members)
    | some (.value _) => none
    | some (.tables items) =>
      (changeLast (changeAt dotted change rest) items).map fun items =>
        .table implicit own (put key (.tables items) members)
    | some (.table isImplicit isDotted inner) =>
      if dotted && !isImplicit then none
      else (changeAt dotted change rest (.table isImplicit isDotted inner)).map fun n =>
        .table implicit own (put key n members)
  | _ :: _, _ => none

/-- Gives a key its value, in a table that is dotted exactly when dotted keys led there. -/
def define (throughDots : Bool) (key : String) (v : Toml) : Node → Option Node
  | .table implicit dotted members =>
    if dotted ≠ throughDots || (lookup key members).isSome then none
    else some (.table implicit dotted (put key (.value v) members))
  | _ => none

/-- Gives a dotted key its value below a table. -/
def defineAt (path : List String) (key : String) (v : Toml) (node : Node) : Option Node :=
  changeAt true (define (!path.isEmpty) key v) path node

/-- Opens a table by a header. -/
def openTable (key : String) : Node → Option Node
  | .table implicit dotted members =>
    match lookup key members with
    | none => some (.table implicit dotted (put key (.table false false []) members))
    | some (.table true false inner) =>
      some (.table implicit dotted (put key (.table false false inner) members))
    | some _ => none
  | _ => none

/-- Adds a table to a list by a header. -/
def openItem (key : String) : Node → Option Node
  | .table implicit dotted members =>
    match lookup key members with
    | none => some (.table implicit dotted (put key (.tables [.table false false []]) members))
    | some (.tables items) =>
      some (.table implicit dotted
        (put key (.tables (items ++ [.table false false []])) members))
    | some _ => none
  | _ => none

/-- The document before its first line. -/
def root : Node := .table false false []

mutual

/-- The value of a finished part. -/
def finish : Node → Toml
  | .value v => v
  | .table _ _ members => .table (finishMembers members)
  | .tables items => .arr (finishItems items)

/-- The values of finished members. -/
def finishMembers : List (String × Node) → List (String × Toml)
  | [] => []
  | (k, n) :: rest => (k, finish n) :: finishMembers rest

/-- The values of finished items. -/
def finishItems : List Node → List Toml
  | [] => []
  | n :: rest => finish n :: finishItems rest

end

end Node

end TieredSearch.Toml
