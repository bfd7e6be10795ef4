import ProseScript.Chance
import ProseScript.Files.Session
import ProseScript.Text.Blank
import ProseScript.Text.Letter

/-!
The story file: its name, and writing it without harm to any other file.
-/

namespace ProseScript

/-- How story files are named. -/
structure NamePolicy where
  stemLength : Nat
  fallbackStem : String
  extension : String
  deriving DecidableEq, Repr

namespace NamePolicy

/-- The letters of the first sentence, or of `STORY` if there is none, up to the stem length. -/
def stem (p : NamePolicy) (output : List String) : String :=
  let first := (output.head?.map fun s => Text.trimChars s.toList).getD "STORY".toList
  let letters := (first.filter Text.isLetter).take p.stemLength
  if letters.isEmpty then p.fallbackStem else String.ofList letters

/-- The stem with a number of four digits. -/
def propose (p : NamePolicy) (output : List String) (c : Chance) : String × Chance :=
  let (number, c) := c.uniform .short 1000 9999
  (p.stem output ++ "_" ++ toString number ++ "." ++ p.extension, c)

end NamePolicy

/-- Why a story was not written. -/
inductive StoryFault where
  | exists (path : String)
  | blocked (path : String) (fault : FileFault)
  deriving DecidableEq, Repr

def StoryFault.message : StoryFault → String
  | .exists path => "desired filename " ++ path ++ " already exists; no changes were made to it"
  | .blocked path fault => "IO error writing " ++ path ++ ": " ++ fault.message

/-- Writes the sentences one after the other into a new file. -/
def writeStory (path : String) (output : List String) : Session (Except StoryFault Unit) :=
  .create path (String.join output) fun
    | .ok () => .done (.ok ())
    | .error .alreadyExists => .done (.error (.exists path))
    | .error fault => .done (.error (.blocked path fault))

end ProseScript
