import Playbook.CommandLine.Run
import Playbook.Zone.Database
import Std.Time.DateTime.Timestamp

/-!
# Playbook.Main

The program: it reads the files that the arguments name, asks for the current
time, and prints what `CommandLine.run` answers.
-/

namespace Playbook

/-- Look up a file. -/
def findFile (file : String) : IO CommandLine.Finding := do
  try
    match String.fromUTF8? (← IO.FS.readBinFile file) with
    | some text => return .text text.toList
    | none => return .unreadable
  catch
    | .noFileOrDirectory .. => return .missing
    | _ => return .unreadable

/-- What is found under the names of files that some arguments need. -/
def findFiles (args : List String) : IO (List (String × CommandLine.Finding)) := do
  match CommandLine.Request.ofArguments args with
  | .ok r => r.files.mapM fun file => do return (file, ← findFile file)
  | .error _ => return []

end Playbook

/-- Carry out the command of the arguments. -/
def main (args : List String) : IO UInt32 := do
  let files ← Playbook.findFiles args
  let now ← Std.Time.Timestamp.now
  let outcome := Playbook.CommandLine.run
    { files := fun file => (files.lookup file).getD .missing
      zones := Playbook.Zone.standard
      now := now.toSecondsSinceUnixEpoch.val }
    args
  IO.print outcome.output
  IO.eprint outcome.complaint
  return outcome.exit.toUInt32
