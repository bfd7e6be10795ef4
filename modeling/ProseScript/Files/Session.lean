import ProseScript.Files.Tree

/-!
Sessions: what a tool asks of the world around it, and what it does with the answers. A session can
be run on a file tree in memory.
-/

namespace ProseScript

/-- A tool at work: either done, or waiting for the answer to a request. -/
inductive Session (α : Type) where
  | done (a : α)
  | read (path : String) (next : Except FileFault String → Session α)
  | list (path : String) (next : Except FileFault (List (FileName × EntryKind)) → Session α)
  | holds (path : String) (next : Bool → Session α)
  /-- Makes a new file; a path that exists is refused. -/
  | create (path : String) (text : String) (next : Except FileFault Unit → Session α)
  | say (text : String) (next : Session α)
  | complain (text : String) (next : Session α)
  /-- Takes a typed line, empty at the end of the input. -/
  | ask (next : String → Session α)
  /-- Takes a seed that cannot be foretold. -/
  | seed (next : UInt64 → Session α)

namespace Session

variable {α β : Type}

protected def bind : Session α → (α → Session β) → Session β
  | done a, f => f a
  | read path next, f => read path fun r => (next r).bind f
  | list path next, f => list path fun r => (next r).bind f
  | holds path next, f => holds path fun r => (next r).bind f
  | create path text next, f => create path text fun r => (next r).bind f
  | say text next, f => say text (next.bind f)
  | complain text next, f => complain text (next.bind f)
  | ask next, f => ask fun r => (next r).bind f
  | seed next, f => seed fun r => (next r).bind f

instance : Monad Session where
  pure := done
  bind := Session.bind

/-- The world in memory: files, typed input, both outputs, and the seed for unforetold draws. -/
structure World where
  files : FileTree
  input : List Char
  said : String
  complained : String
  entropy : UInt64

/-- Runs a session on a world in memory. -/
def run : Session α → World → α × World
  | done a, w => (a, w)
  | read path next, w => (next (w.files.read path)).run w
  | list path next, w => (next (w.files.list path)).run w
  | holds path next, w => (next (w.files.holds path)).run w
  | create path text next, w =>
      match w.files.create path text with
      | .ok files => (next (.ok ())).run { w with files }
      | .error f => (next (.error f)).run w
  | say text next, w => next.run { w with said := w.said ++ text }
  | complain text next, w => next.run { w with complained := w.complained ++ text }
  | ask next, w =>
      let line := w.input.takeWhile (· ≠ '\n')
      (next (String.ofList line)).run { w with input := w.input.drop (line.length + 1) }
  | seed next, w => (next w.entropy).run w

end Session

end ProseScript
