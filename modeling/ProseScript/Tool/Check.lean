import ProseScript.Lint
import ProseScript.Project
import ProseScript.Tool.Arguments

/-!
The tool that checks programs and prints a report on each.
-/

namespace ProseScript.Tool

/-- Checks one program; the answer tells whether it is free of errors. -/
def checkProgram (path : String) : Session Bool :=
  .say ("\n=== " ++ path ++ " ===\n\n") <|
    .read path fun
      | .error fault =>
          .complain ("ERROR: Failed to read program: " ++ fault.message ++ "\n") (.done false)
      | .ok source =>
          match Program.ofSource source with
          | .error fault => .say ("ERROR: " ++ fault.render ++ "\n") (.done false)
          | .ok p =>
              let report := Lint.program p
              .say report.render (.done report.problems.isEmpty)

/-- Checks programs in order; the answer tells whether all are free of errors. -/
def checkPrograms : List String → Session Bool
  | [] => .done true
  | path :: rest => do
      let clean ← checkProgram path
      let others ← checkPrograms rest
      return clean && others

def checkHelp (tool : String) : String :=
  "Check block structure and command words of prose programs\n\n" ++
  "Usage: " ++ tool ++ " <PROGRAMS>...\n\n" ++
  "Arguments:\n" ++
  "  <PROGRAMS>...  Program files to check\n\n" ++
  "Options:\n" ++
  "  -h, --help  Print help\n"

/-- The whole tool; the answer is its exit code. -/
def check (tool : String) (args : List String) : Session Nat :=
  match checkRequest args with
  | .help => .say (checkHelp tool) (.done 0)
  | .misuse => .complain ("Usage: " ++ tool ++ " <PROGRAMS>...\n") (.done 2)
  | .run paths => do
      let clean ← checkPrograms paths
      return if clean then 0 else 1

end ProseScript.Tool
