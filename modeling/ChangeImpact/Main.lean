import ChangeImpact.Command.Run
import ChangeImpact.Project.Bundle

/-!
The command line. The first line of standard input is the workspace as a document; the command is taken
from the arguments, or without arguments each further line is a command as a list of words.
-/

set_option autoImplicit false

namespace ChangeImpact.Main

open ChangeImpact.Command (Station Outcome runLine)

def workspaceOf (line : String) : Workspace :=
  match Json.read line with
  | .ok (.list items) => Bundle.put "" items (.empty ".")
  | _ => .empty "."

def wordsOf (line : String) : List String :=
  match Json.read line with
  | .ok (.list items) => items.map Json.Value.plain
  | _ => []

def report (outcome : Outcome) : IO UInt32 := do
  IO.print outcome.output.out
  IO.eprint outcome.output.err
  match outcome.ending with
  | .escaped escape => IO.eprintln escape.message
  | _ => pure ()
  pure (UInt32.ofNat outcome.ending.exitCode)

def runCommand (words : List String) (station : Station) : IO (UInt32 × Station) := do
  let now ← IO.monoMsNow
  let (outcome, after) := runLine s!"T{now}" words station
  pure (← report outcome, after)

/-- Runs the commands of further lines; the exit code is that of the last. -/
partial def runLines (input : IO.FS.Stream) (code : UInt32) (station : Station) : IO UInt32 := do
  let line ← input.getLine
  if line.isEmpty then pure code
  else
    let (next, after) ← runCommand (wordsOf line) station
    runLines input next after

end ChangeImpact.Main

def main (arguments : List String) : IO UInt32 := do
  let input ← IO.getStdin
  let workspace := ChangeImpact.Main.workspaceOf (← input.getLine)
  let station : ChangeImpact.Command.Station := { workspace }
  if arguments.isEmpty then ChangeImpact.Main.runLines input 0 station
  else
    let (code, _) ← ChangeImpact.Main.runCommand arguments station
    pure code
