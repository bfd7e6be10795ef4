import ProseScript.Files.Name
import ProseScript.Text.Split

/-!
File trees, and how paths lead through them.
-/

namespace ProseScript

/-- Why a path could not be read, listed or created. -/
inductive FileFault where
  | notFound
  | notADirectory
  | isADirectory
  | alreadyExists
  | nameTooLong
  /-- The path holds a NUL character. -/
  | invalidPath
  | invalidText
  | other (text : String)
  deriving DecidableEq, Repr

def FileFault.message : FileFault → String
  | notFound => "No such file or directory (os error 2)"
  | notADirectory => "Not a directory (os error 20)"
  | isADirectory => "Is a directory (os error 21)"
  | alreadyExists => "File exists (os error 17)"
  | nameTooLong => "File name too long (os error 36)"
  | invalidPath => "file name contained an unexpected NUL byte"
  | invalidText => "stream did not contain valid UTF-8"
  | other text => text

inductive EntryKind where
  | file
  | directory
  | other
  deriving DecidableEq, Repr

/-- An entry of a file tree. A binary file is one whose bytes are no text. -/
inductive FileEntry where
  | text (s : String)
  | binary
  | directory
  deriving DecidableEq, Repr

namespace FileEntry

def kind : FileEntry → EntryKind
  | text _ => .file
  | binary => .file
  | directory => .directory

/-- The text of an entry that is a readable file. -/
def read : FileEntry → Except FileFault String
  | text s => .ok s
  | binary => .error .invalidText
  | directory => .error .isADirectory

end FileEntry

namespace Path

/-- The pieces of a path between slashes, after the pending piece `part` held in reverse. -/
def partsFrom (part : List Char) : List Char → List String
  | [] => [String.ofList part.reverse]
  | c :: rest =>
      if c = '/' then String.ofList part.reverse :: partsFrom [] rest
      else partsFrom (c :: part) rest

def parts (path : String) : List String := partsFrom [] path.toList

/-- The path of a name in a directory. What begins with a slash is a path of its own. -/
def join (dir name : String) : String :=
  if dir.isEmpty || Text.startsWith name "/" then name
  else if dir.toList.getLast? = some '/' then dir ++ name
  else dir ++ "/" ++ name

/-- The path without slashes at its end. -/
def bare (path : String) : String :=
  String.ofList (path.toList.reverse.dropWhile (· = '/')).reverse

/-- A path with a final slash can only name a directory, yet a new one when its last piece is a name
of its own. -/
def namesFolder (path : String) : Bool :=
  bare path != path &&
    match (parts (bare path)).getLast? with
    | some part => part != "" && part != "." && part != ".."
    | none => false

/-- No name has more bytes than this. -/
def maxName : Nat := 255

/-- No path has more bytes than this. -/
def maxLength : Nat := 4095

/-- Why a path leads nowhere in any tree. -/
def fault? (path : String) : Option FileFault :=
  if '\x00' ∈ path.toList then some .invalidPath
  else if path.isEmpty then some .notFound
  else if maxLength < path.utf8ByteSize then some .nameTooLong
  else none

end Path

/-- The entries of a tree by their places: the names that lead to them from its top. The top is a
directory. -/
structure FileTree where
  entries : List (List FileName × FileEntry)
  deriving DecidableEq, Repr

/-- Where a path leads. -/
inductive Destination where
  | entry (place : List FileName) (e : FileEntry)
  /-- No entry, but a directory that could hold one. -/
  | vacant (place : List FileName)
  | blocked (fault : FileFault)
  deriving DecidableEq, Repr

namespace FileTree

def empty : FileTree := ⟨[]⟩

/-- The place that stands for all directories outside the tree, in which no names are known. No name
in the tree holds a slash. -/
def outside : List FileName := ["/"]

def entry? (t : FileTree) (place : List FileName) : Option FileEntry :=
  if place = [] ∨ place = outside then some .directory else t.entries.lookup place

/-- The directory that holds a directory. -/
def above (place : List FileName) : List FileName :=
  if place = [] ∨ place = outside then outside else place.dropLast

/-- Follows the pieces of a path from a place. Only a directory can be passed through. -/
def follow (t : FileTree) : List FileName → List String → Destination
  | place, [] =>
      match t.entry? place with
      | some e => .entry place e
      | none => .vacant place
  | place, part :: rest =>
      match t.entry? place with
      | none => .blocked .notFound
      | some .directory =>
          if part = "" ∨ part = "." then t.follow place rest
          else if part = ".." then t.follow (above place) rest
          else if Path.maxName < part.utf8ByteSize then .blocked .nameTooLong
          else t.follow (place ++ [.ofString part]) rest
      | some _ => .blocked .notADirectory

/-- The place from which a path leads: the top of the tree, unless the path begins with a slash. -/
def start (path : String) : List FileName := if Text.startsWith path "/" then outside else []

def find (t : FileTree) (path : String) : Destination :=
  match Path.fault? path with
  | some f => .blocked f
  | none => t.follow (start path) (Path.parts path)

/-- What keeps the directory that holds a folder from being reached. The folder itself is not
looked for. -/
def folderFault? (t : FileTree) (path : String) : Option FileFault :=
  match Path.fault? path with
  | some f => some f
  | none =>
      match t.follow (start path) (Path.parts (Path.bare path)).dropLast with
      | .entry _ .directory => none
      | .entry _ _ => some .notADirectory
      | .vacant _ => some .notFound
      | .blocked f => some f

def read (t : FileTree) (path : String) : Except FileFault String :=
  match t.find path with
  | .entry _ e => e.read
  | .vacant _ => .error .notFound
  | .blocked f => .error f

/-- What the path of an entry of a directory shows of it: nothing, if the path is too long. -/
def kindIn (dir : String) (name : FileName) (e : FileEntry) : EntryKind :=
  if Path.maxLength < (Path.join dir "").utf8ByteSize + name.bytes.length then .other else e.kind

/-- The names in a directory, with what they stand for. -/
def list (t : FileTree) (path : String) : Except FileFault (List (FileName × EntryKind)) :=
  match t.find path with
  | .entry place .directory =>
      .ok (t.entries.filterMap fun (p, e) =>
        match p.getLast? with
        | some name =>
            if p.dropLast = place then some (name, kindIn path name e) else none
        | none => none)
  | .entry _ _ => .error .notADirectory
  | .vacant _ => .error .notFound
  | .blocked f => .error f

def holds (t : FileTree) (path : String) : Bool :=
  match t.find path with
  | .entry _ _ => true
  | _ => false

/-- Makes a new file. An entry that exists is not touched, and a path that names a folder makes
none. -/
def create (t : FileTree) (path : String) (text : String) : Except FileFault FileTree :=
  if Path.namesFolder path then .error ((t.folderFault? path).getD .isADirectory)
  else
    match t.find path with
    | .entry _ _ => .error .alreadyExists
    | .vacant place => .ok ⟨t.entries ++ [(place, .text text)]⟩
    | .blocked f => .error f

/-- Puts an entry at a place, with the directories that lead there. -/
def plant (t : FileTree) (place : List FileName) (e : FileEntry) : FileTree :=
  let ways := (List.range place.length).map fun n => place.take n
  let missing := ways.filter fun p => (t.entry? p).isNone
  let kept := (t.entries ++ missing.map fun p => (p, FileEntry.directory)).filter (·.1 ≠ place)
  ⟨kept ++ [(place, e)]⟩

/-- A path ends at a vacant place only where the tree has no entry. -/
theorem entry?_of_follow {t : FileTree} {parts : List String} {q place : List FileName}
    (h : t.follow q parts = .vacant place) : t.entry? place = none := by
  induction parts generalizing q with
  | nil =>
    unfold follow at h
    split at h
    · cases h
    · next hq => exact Destination.vacant.inj h ▸ hq
  | cons part rest ih =>
    unfold follow at h
    repeat' split at h
    all_goals first
      | cases h
      | exact ih h

theorem entry?_of_find {t : FileTree} {path : String} {place : List FileName}
    (h : t.find path = .vacant place) : t.entry? place = none := by
  unfold find at h
  split at h
  · cases h
  · exact entry?_of_follow h

end FileTree

end ProseScript
