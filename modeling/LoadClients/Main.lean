import LoadClients.Command.Arguments
import LoadClients.Command.Run

/-! The command line program. -/

namespace LoadClients

/-- What stands in the way of a file, as far as a run tells obstacles apart. -/
def obstacleOf : IO.Error → Obstacle
  | .noFileOrDirectory _ _ _ => .missing
  | .inappropriateType _ _ _ => .isDirectory
  | _ => .notDirectory

def attempt {α : Type} (action : IO α) : IO (Except Obstacle α) := do
  match ← action.toBaseIO with
  | .ok a => pure (.ok a)
  | .error e => pure (.error (obstacleOf e))

instance : Disk IO where
  read path := attempt (IO.FS.readFile path)
  makeDirectories path := attempt (IO.FS.createDirAll path)
  write path text := attempt (IO.FS.writeFile path text)

def usage : String :=
  "Usage: [-v] codegen <INPUT> [-o <OUTPUT-DIR>] [-b <BASENAME>]\n" ++
  "       [-v] validate <INPUT>\n" ++
  "       help [codegen | validate]"

end LoadClients

open LoadClients

def main (args : List String) : IO UInt32 := do
  match Invocation.ofArguments args with
  | .error .shown =>
    IO.println usage
    return 0
  | .error .refused =>
    IO.eprintln usage
    return 2
  | .ok i =>
    let report ← i.command.run
    for line in report.lines i.verbose do IO.println line
    if let some message := report.ending.message? then IO.eprintln message
    return report.ending.exitCode.toUInt32
