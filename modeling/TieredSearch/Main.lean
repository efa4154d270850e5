import TieredSearch.Command.Line
import TieredSearch.Command.Snapshot
import TieredSearch.Config.Reader
import TieredSearch.Number.Binary

/-!
# The program

Answers one task against the snapshot of a site: `--config` names the configuration
(`tieredsearch.toml` when nothing is said), `--data` the snapshot (`snapshot.json`). The answer is
printed as indented JSON; a failure goes to the error output.
-/

namespace TieredSearch.Command

/-- The text of a file, if it can be read. -/
def readText? (path : String) : IO (Option String) := do
  try
    return some (← IO.FS.readFile path)
  catch _ =>
    return none

/-- The answer to a command line, or what went wrong. -/
def answerLine (line : Line) (config data : Option String) : Except String (Json Float) := do
  let task ← (Task.ofLine (R := Float) line).mapError LineFault.message
  let config ← (Config.load config).mapError Config.LoadFault.message
  let snapshot ← match data.bind (Snapshot.ofText? (R := Float)) with
    | some snapshot => .ok snapshot
    | none => .error "Failed to read the snapshot"
  let ctx ← (snapshot.services.connect config snapshot.patience).mapError CommandError.message
  (task.answer snapshot.services ctx).mapError CommandError.message

end TieredSearch.Command

open TieredSearch.Command in
/-- Reads the command line and the files it names, and prints the answer. -/
def main (args : List String) : IO UInt32 := do
  match Line.ofWords args with
  | .error fault =>
    IO.eprintln fault.message
    return 2
  | .ok line =>
    let config ← readText? ((line.value? "--config").getD "tieredsearch.toml")
    let data ← readText? ((line.value? "--data").getD "snapshot.json")
    match answerLine line config data with
    | .error message =>
      IO.eprintln message
      return 1
    | .ok answer =>
      IO.println answer.pretty
      return 0
