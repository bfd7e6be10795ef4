import ProseScript.Chance.Seeded
import ProseScript.Project
import ProseScript.Run
import ProseScript.Tool.Arguments

/-!
The tool that runs a program and writes its story to a new file.
-/

namespace ProseScript.Tool

/-- The settings of a command line: those of a file, or the standard ones, under the options. -/
def storySettings (a : StoryArguments) : Session (Except SettingsFault RunSettings) := do
  let loaded ← match a.settings with
    | some path => RunSettings.load path
    | none => pure (.ok .standard)
  return loaded.map fun s =>
    { s with vocabularyRoot := a.vocabulary.getD s.vocabularyRoot, seed := a.seed <|> s.seed }

/-- The stream of a seed; without one, of a seed that cannot be foretold. -/
def freshChance : Option Nat → Session Chance
  | some seed => .done (.seeded seed.toUInt64)
  | none => .seed fun seed => .done (.seeded seed)

/-- Shows the displayed texts, a line end after each. -/
def sayAll (texts : List String) : Session Unit :=
  .say (String.join (texts.map (· ++ "\n"))) (.done ())

/-- The file to write: the one asked for, or a proposed name. If that is taken, another is asked
for, and no answer keeps the proposal. -/
def storyPath (a : StoryArguments) (s : RunSettings) (output : List String) : Session String :=
  match a.output with
  | some path => .done path
  | none => do
      let chance ← freshChance s.seed
      let proposed := (s.namePolicy.propose output chance).1
      .holds proposed fun
        | false => .done proposed
        | true =>
            .say (proposed ++ " exists. Enter filename for story: ") <|
              .ask fun answer =>
                let name := Text.trim answer
                .done (if name.isEmpty then proposed else name)

/-- Runs the program and writes its story. -/
def tellStory (a : StoryArguments) : Session (Except ProjectFault Unit) := do
  match ← storySettings a with
  | .error fault => return .error (.settings fault)
  | .ok s =>
      match ← s.prepare with
      | .error fault => return .error fault
      | .ok (setup, _) =>
          match ← Program.load a.program with
          | .error fault => return .error fault
          | .ok p =>
              let chance ← freshChance s.seed
              match Run.program Run.ample setup p chance with
              | .failed fault shown =>
                  sayAll shown.toList
                  return .error (.script fault)
              | .crashed crash shown =>
                  sayAll shown.toList
                  return .error (.crashed crash)
              | .unfinished => return .error .unfinished
              | .finished state =>
                  sayAll state.shown.toList
                  let output := state.output.toList
                  let path ← storyPath a s output
                  Session.say ("Writing " ++ toString (WordCount.ofOutput output) ++
                    " words to file: " ++ path ++ "\n") (.done ())
                  match ← writeStory path output with
                  | .ok () => return .ok ()
                  | .error fault => return .error (.story fault)

def tellHelp (tool : String) : String :=
  "Run a prose program and write the generated story\n\n" ++
  "Usage: " ++ tool ++ " [OPTIONS] <PROGRAM>\n\n" ++
  "Arguments:\n" ++
  "  <PROGRAM>  Program file, one command per line\n\n" ++
  "Options:\n" ++
  "  -c, --config <CONFIG>  RON run configuration\n" ++
  "      --vocab <VOCAB>    Vocabulary root holding the sentence and word folders\n" ++
  "  -s, --seed <SEED>      Fixed RNG seed for a reproducible story\n" ++
  "  -o, --output <OUTPUT>  Output file; proposed from the first sentence when omitted\n" ++
  "  -h, --help             Print help\n"

/-- The whole tool; the answer is its exit code. -/
def tell (tool : String) (args : List String) : Session Nat :=
  match storyRequest args with
  | .help => .say (tellHelp tool) (.done 0)
  | .misuse => .complain ("Usage: " ++ tool ++ " [OPTIONS] <PROGRAM>\n") (.done 2)
  | .run a => do
      match ← tellStory a with
      | .ok () => return 0
      | .error fault => .complain (fault.message ++ "\n") (.done fault.exitCode)

end ProseScript.Tool
