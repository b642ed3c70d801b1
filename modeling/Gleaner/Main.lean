import Gleaner.Cli.Run
import Gleaner.Web.Client
import Std.Time.DateTime.Timestamp

/-!
The program: reads the files that its arguments name, runs the command, and prints what it answers.
It has no transport, so requests to sites stay unanswered.
-/
namespace Gleaner.Cli

def readFile (name : String) : IO FileContent := do
  try
    return .text (← IO.FS.readFile name)
  catch
    | .userError _ | .permissionDenied .. => return .unreadable
    | _ => return .absent

def readFiles (names : List String) : IO Files := do
  let contents ← names.mapM fun name => return (name, ← readFile name)
  return fun name => (contents.lookup name).getD .absent

def perform (args : List String) : IO Outcome := do
  match Invocation.ofArguments args with
  | .error refusal => return refusal.outcome
  | .ok i =>
    let files ← readFiles i.fileNames
    let now ← Std.Time.Timestamp.now
    let filters := FilterRegistry.builtin now.toSecondsSinceUnixEpoch.val
    return i.run (Web.Client.standard.web Web.Wire.closed) filters files ([], ())

end Gleaner.Cli

def main (args : List String) : IO UInt32 := do
  let outcome ← Gleaner.Cli.perform args
  IO.print outcome.output
  IO.eprint outcome.error
  return outcome.code.toUInt32
