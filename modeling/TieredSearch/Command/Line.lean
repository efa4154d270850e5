import TieredSearch.Command.Basic
import TieredSearch.Number.Numeral
import TieredSearch.Number.Word

/-!
# Command lines

A command line is a command among options. An option is a word in two dashes followed by its
value, a flag stands alone. `Task.ofWords` reads what is asked for, `Task.answer` answers it.
-/

namespace TieredSearch.Command

/-- Why a command line cannot be understood. -/
inductive LineFault where
  /-- No command. -/
  | noCommand
  /-- No such command, or more than one. -/
  | unknownCommand (words : List String)
  /-- No such option. -/
  | unknownOption (word : String)
  /-- An option without its value. -/
  | valueMissing (option : String)
  /-- An option the command needs. -/
  | optionMissing (option : String)
  /-- A value that does not fit its option. -/
  | badValue (option value : String)
  deriving DecidableEq, Repr

/-- The wording of a fault. -/
def LineFault.message : LineFault → String
  | .noCommand => "a command is required: fields, compile, numeric, text, count or scope"
  | .unknownCommand words => "unrecognized command: " ++ " ".intercalate words
  | .unknownOption word => "unexpected argument: " ++ word
  | .valueMissing option => "a value is required for " ++ option
  | .optionMissing option => option ++ " is required"
  | .badValue option value => "invalid value " ++ value ++ " for " ++ option

/-- The words of a command line, told apart. -/
structure Line where
  /-- The words that belong to no option. -/
  words : List String := []
  /-- The options with their values. -/
  options : List (String × String) := []
  /-- The flags. -/
  flags : List String := []

namespace Line

/-- The words that stand for a flag. -/
def flagNames : List String := ["--verbose", "-v", "--no-filter-self"]

/-- The words that stand for an option. -/
def optionNames : List String :=
  ["--config", "--data", "--index", "--field", "--filter", "--sort", "--start", "--end", "--step",
    "--bins", "--token", "--accessibility"]

/-- Tells the words of a command line apart. -/
def ofWords : List String → Except LineFault Line
  | [] => .ok {}
  | word :: rest =>
    if flagNames.contains word then
      (ofWords rest).map fun line => { line with flags := word :: line.flags }
    else if optionNames.contains word then
      match rest with
      | value :: rest =>
        (ofWords rest).map fun line => { line with options := (word, value) :: line.options }
      | [] => .error (.valueMissing word)
    else if word.toList.head? = some '-' then .error (.unknownOption word)
    else (ofWords rest).map fun line => { line with words := word :: line.words }

/-- The value of an option. -/
def value? (line : Line) (option : String) : Option String := line.options.lookup option

/-- The value of an option that has to be there. -/
def required (line : Line) (option : String) : Except LineFault String :=
  match line.value? option with
  | some value => .ok value
  | none => .error (.optionMissing option)

/-- The value of an option as it is read. -/
def parsed? {α : Type} (line : Line) (option : String) (read : String → Option α) :
    Except LineFault (Option α) :=
  match line.value? option with
  | none => .ok none
  | some value =>
    match read value with
    | some a => .ok (some a)
    | none => .error (.badValue option value)

/-- The part of the data that is asked for; all of it when nothing is said. -/
def accessibility (line : Line) : Except LineFault Accessibility :=
  (line.parsed? "--accessibility" Accessibility.ofName?).map (·.getD .all)

end Line

/-- What is asked for at a terminal. -/
inductive Task (R : Type) where
  /-- The fields of an index. -/
  | fields (index : String)
  /-- The native form of a filter and a sort order. -/
  | compile (index filter : String) (sort : Option String)
  /-- Statistics or a histogram; the filter of the request is still a text. -/
  | numeric (token index : String) (filter : Option String) (req : AggregationRequest R)
    (accessibility : Accessibility)
  /-- Term counts; the filter of the request is still a text. -/
  | terms (token index : String) (filter : Option String) (req : AggregationRequest R)
    (accessibility : Accessibility)
  /-- A total. -/
  | count (token index : String) (filter : Option String) (accessibility : Accessibility)
  /-- The scope of a caller. -/
  | scope (token : String)

namespace Task

variable {R : Type} [Scalar R]

/-- A whole number of 64 bits: digits behind an optional sign. -/
def whole? (text : String) : Option Int :=
  let (negative, digits) := Number.takeSign text.toList
  let size : Int := Number.ofDigits digits
  let n := if negative then -size else size
  if digits.isEmpty || !digits.all Char.isDigit || !Number.isSigned n then none else some n

/-- The request that the options of an aggregation make. -/
def requestOf (line : Line) : Except LineFault (AggregationRequest R) := do
  let field ← line.required "--field"
  let start ← line.parsed? "--start" Number.numeral?
  let stop ← line.parsed? "--end" Number.numeral?
  let step ← line.parsed? "--step" Number.numeral?
  let bins ← line.parsed? "--bins" whole?
  return {
    field := field
    filter := none
    filterSelf := !line.flags.contains "--no-filter-self"
    rangeStart := start
    rangeEnd := stop
    rangeStep := step
    binCount := bins
    authFilter := none }

/-- What a command line asks for. -/
def ofLine (line : Line) : Except LineFault (Task R) :=
  match line.words with
  | ["fields"] => return .fields (← line.required "--index")
  | ["compile"] =>
    return .compile (← line.required "--index") (← line.required "--filter") (line.value? "--sort")
  | ["numeric"] =>
    return .numeric (← line.required "--token") (← line.required "--index")
      (line.value? "--filter") (← requestOf line) (← line.accessibility)
  | ["text"] =>
    return .terms (← line.required "--token") (← line.required "--index")
      (line.value? "--filter") (← requestOf line) (← line.accessibility)
  | ["count"] =>
    return .count (← line.required "--token") (← line.required "--index")
      (line.value? "--filter") (← line.accessibility)
  | ["scope"] => return .scope (← line.required "--token")
  | [] => .error .noCommand
  | words => .error (.unknownCommand words)

/-- The answer to a task. A filter is read before the caller's scope is resolved. -/
def answer (services : Services R) (ctx : Context) : Task R → Except CommandError (Json R)
  | .fields index => Command.fields ctx index
  | .compile index filter sort => Command.compile ctx index filter sort
  | .numeric token index filter req accessibility => do
    let filter ← parseFilter filter
    Command.numeric services ctx ⟨token⟩ index { req with filter := filter } accessibility
  | .terms token index filter req accessibility => do
    let filter ← parseFilter filter
    Command.terms services ctx ⟨token⟩ index { req with filter := filter } accessibility
  | .count token index filter accessibility => do
    let filter ← parseFilter filter
    Command.count services ctx ⟨token⟩ index filter accessibility
  | .scope token => Command.scope services ctx ⟨token⟩

end Task

end TieredSearch.Command
