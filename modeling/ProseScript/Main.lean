import ProseScript.Tool.Check
import ProseScript.Tool.Tell

/-!
The command-line program. Called under a name that holds "lint" it checks programs, else it tells a
story.
-/

namespace ProseScript

/-- The fault of a system error number, which may come negated. -/
def FileFault.ofCode (code : UInt32) (details : String) : FileFault :=
  let code := min code (0 - code)
  if code = 2 then notFound
  else if code = 17 then alreadyExists
  else if code = 20 then notADirectory
  else if code = 21 then isADirectory
  else if code = 36 then nameTooLong
  else other (details ++ " (os error " ++ toString code ++ ")")

/-- The fault behind an error of the operating system. -/
def FileFault.ofError : IO.Error → FileFault
  | .noFileOrDirectory _ code details => ofCode code details
  | .noSuchThing _ code details => ofCode code details
  | .alreadyExists _ code details => ofCode code details
  | .inappropriateType _ code details => ofCode code details
  | .permissionDenied _ code details => ofCode code details
  | .invalidArgument _ code details => ofCode code details
  | .resourceExhausted _ code details => ofCode code details
  | .otherError code details => ofCode code details
  | e => other (toString e)

def EntryKind.ofMetadata (m : IO.FS.Metadata) : EntryKind :=
  match m.type with
  | .file => .file
  | .dir => .directory
  | _ => .other

/-- Runs an action that may fail. -/
def attempt {α : Type} (act : IO α) : IO (Except FileFault α) := do
  try
    return .ok (← act)
  catch e => return .error (.ofError e)

def readText (path : String) : IO (Except FileFault String) := do
  match ← attempt (IO.FS.readBinFile path) with
  | .error fault => return .error fault
  | .ok bytes =>
      match String.fromUTF8? bytes with
      | some text => return .ok text
      | none => return .error .invalidText

namespace Session

/-- Runs a session on the real world. -/
def perform {α : Type} : Session α → IO α
  | done a => return a
  | read path next => do (next (← readText path)).perform
  | list path next => do
      let entries ← attempt do
        let found ← (IO.FS.DirEntry.mk path "").root.readDir
        found.toList.mapM fun e => do
          let found ← attempt e.path.metadata
          return (.ofString e.fileName, (found.toOption.map EntryKind.ofMetadata).getD .other)
      (next entries).perform
  | holds path next => do
      (next (← (IO.FS.DirEntry.mk path "").root.pathExists)).perform
  | create path text next => do
      let made ← attempt do
        let file ← IO.FS.Handle.mk path .writeNew
        file.putStr text
        file.flush
      (next made).perform
  | say text next => do
      let out ← IO.getStdout
      out.putStr text
      out.flush
      next.perform
  | complain text next => do
      (← IO.getStderr).putStr text
      next.perform
  | ask next => do
      let answer ← attempt do (← IO.getStdin).getLine
      (next (answer.toOption.getD "")).perform
  | seed next => do
      let bytes ← IO.getRandomBytes 8
      (next (bytes.foldl (fun n b => 256 * n + b.toUInt64) 0)).perform

end Session

end ProseScript

def main (args : List String) : IO UInt32 := do
  let tool := (← IO.appPath).fileName.getD "story"
  let session := if ProseScript.Text.holds tool "lint" then ProseScript.Tool.check tool args
    else ProseScript.Tool.tell tool args
  return (← session.perform).toUInt32
