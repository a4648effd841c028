/-
# The program

Reads the files that a command line names, runs the command, and prints its output.  A failure is
reported on the error stream with exit code 1, a command line that is no command with exit code 2.
-/

import GroovyNew.CommandLine.Command

namespace GroovyNew
namespace Main

/-- The text of a file, if it can be read. -/
def readText? (path : String) : IO (Option String) :=
  try return some (← IO.FS.readFile path) catch _ => return none

/-- The workspace that a command reads. -/
def workspaceOf : Command → String
  | .resolve workspace _ _ _ => workspace
  | .variants workspace _ => workspace
  | .check workspace _ => workspace

/-- The texts of the files that a command line names, by their paths. -/
def readFiles (c : CommandLine) : IO (List (String × String)) := do
  let paths := workspaceOf c.command :: c.config.toList
  let texts ← paths.mapM fun path => do return (← readText? path).map fun text => (path, text)
  return texts.filterMap id

/-- The text of the configuration in the user's home. -/
def readHomeConfig : IO (Option String) := do
  match ← IO.getEnv "HOME" with
  | some home => readText? (home ++ "/.groovy-new/config.json")
  | none => return none

/-- What is said of a failure. -/
def failureText (f : Failure) : String :=
  match f with
  | .unreadable path => "cannot read " ++ path
  | .malformed => "not a JSON text of the expected shape"
  | f => f.message?.getD ""

/-- What is said of a command line that is no command. -/
def usageText : String :=
  "usage: groovy-new [--config FILE] [-v] COMMAND\n" ++
  "  resolve WORKSPACE [--call ID] [--incomplete] [--json]\n" ++
  "  variants WORKSPACE --call ID\n" ++
  "  check WORKSPACE [--problems]"

end Main
end GroovyNew

open GroovyNew in
/-- Runs the command that the arguments name. -/
def main (args : List String) : IO UInt32 := do
  match CommandLine.parse args with
  | .error .displayHelp =>
    IO.println Main.usageText
    return 0
  | .error _ =>
    IO.eprintln Main.usageText
    return 2
  | .ok c =>
    let files ← Main.readFiles c
    let home ← Main.readHomeConfig
    match c.run (fun path => files.lookup path) home with
    | .ok output =>
      IO.print output
      return 0
    | .error f =>
      IO.eprintln ("error: " ++ Main.failureText f)
      return 1
