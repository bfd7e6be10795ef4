import ProseScript.Fault
import ProseScript.Files.Session
import ProseScript.Table

/-!
Vocabulary folders: each readable file is one set, named by its file name up to the first period,
with one item for each line that is not blank.
-/

namespace ProseScript

/-- A path that could not be read while loading. -/
structure LoadFault where
  path : String
  fault : FileFault
  deriving DecidableEq, Repr

def LoadFault.message (e : LoadFault) : String :=
  "IO error reading " ++ e.path ++ ": " ++ e.fault.message

namespace Vocabulary

/-- The lower-case name up to the first period, if any. A name that is no text has none. -/
def setName? (name : FileName) : Option String :=
  name.text?.bind fun text =>
    let stem := text.toList.takeWhile (· ≠ '.')
    if stem.isEmpty then none else some (Text.lower (String.ofList stem))

/-- What was found under a name in a folder. Only a file that gives a set is read. -/
inductive Content where
  | file (key : String) (text : Except FileFault String)
  | unnamed
  | notAFile

/-- The trimmed lines that are not blank, each once. -/
def items (text : String) : List String :=
  (((Text.lines text).map Text.trim).filter fun line => !line.isEmpty).eraseDups

/-- What a folder has given so far. -/
abbrev Loaded := Catalog × List Warning

def skipped (path reason : String) : Warning := .mild ("skipping " ++ path ++ ": " ++ reason)

/-- Takes in one entry of a folder. -/
def loadEntry (dir : String) (loaded : Loaded) (entry : FileName × Content) :
    Except LoadFault Loaded :=
  let path := Path.join dir entry.1.shown
  let skip (reason : String) : Except LoadFault Loaded :=
    .ok (loaded.1, loaded.2 ++ [skipped path reason])
  match entry.2 with
  | .notAFile => skip "not a regular file"
  | .unnamed => skip "no usable name before the first period"
  | .file _ (.error fault) => .error ⟨path, fault⟩
  | .file key (.ok text) =>
      let found := items text
      if found.isEmpty then skip "file is empty"
      else .ok (loaded.1.insert key found, loaded.2)

/-- Entries in the order of their names. -/
def inNameOrder {α : Type} (entries : List (FileName × α)) : List (FileName × α) :=
  entries.mergeSort fun a b => decide (a.1 ≤ b.1)

/-- Takes in the entries of a folder, in the order of their names. -/
def loadEntries (dir : String) (entries : List (FileName × Content)) : Except LoadFault Loaded :=
  (inNameOrder entries).foldlM (loadEntry dir) (.empty, [])

/-- The first directory in the order of names that begins with `start`, whatever the case. -/
def folderFor? (start : String) (entries : List (FileName × EntryKind)) : Option String :=
  (inNameOrder entries).findSome? fun (name, kind) =>
    name.text?.filter fun text =>
      kind == .directory && Text.startsWith (Text.lower text) (Text.lower start)

/-- Reads what stands under each name of a folder. -/
def readContents (dir : String) : List (FileName × EntryKind) → Session (List (FileName × Content))
  | [] => .done []
  | (name, .file) :: rest =>
      match setName? name with
      | none => do
          return (name, .unnamed) :: (← readContents dir rest)
      | some key =>
          .read (Path.join dir name.shown) fun text => do
            return (name, .file key text) :: (← readContents dir rest)
  | (name, _) :: rest => do
      return (name, .notAFile) :: (← readContents dir rest)

/-- Loads a folder. -/
def loadFolder (dir : String) : Session (Except LoadFault Loaded) :=
  .list dir fun
    | .error fault => .done (.error ⟨dir, fault⟩)
    | .ok entries => do
        return loadEntries dir (← readContents dir entries)

/-- The path of the folder whose name begins with `start`. -/
def findFolder (root start : String) : Session (Except LoadFault (Option String)) :=
  .list root fun
    | .error fault => .done (.error ⟨root, fault⟩)
    | .ok entries => .done (.ok ((folderFor? start entries).map (Path.join root)))

/-- Loads the folder whose name begins with `start`. Without one, a severe warning is all. -/
def loadStarting (root start : String) : Session (Except LoadFault Loaded) := do
  match ← findFolder root start with
  | .error e => return .error e
  | .ok (some dir) => loadFolder dir
  | .ok none =>
      let warning := Warning.severe
        ("no folder starting with '" ++ start ++ "' found in " ++ root)
      return .ok (.empty, [warning])

end Vocabulary

/-- The two folders of a vocabulary, and the warnings of loading them. -/
structure Vocabulary where
  sentences : Catalog
  words : Catalog
  warnings : List Warning
  deriving Repr

/-- Loads the sentences and then the words. -/
def Vocabulary.load (root sentenceStart wordStart : String) :
    Session (Except LoadFault Vocabulary) := do
  match ← loadStarting root sentenceStart with
  | .error e => return .error e
  | .ok (sentences, warnings) =>
      match ← loadStarting root wordStart with
      | .error e => return .error e
      | .ok (words, more) => return .ok ⟨sentences, words, warnings ++ more⟩

end ProseScript
