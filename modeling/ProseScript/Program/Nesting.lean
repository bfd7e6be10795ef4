import ProseScript.Fault
import ProseScript.Program

/-!
Nesting lines into blocks: an opener waits for the next closer, whatever the closer's own word.
-/

namespace ProseScript

/-- A block that waits for its closer. Its body so far is held latest first. -/
structure OpenBlock where
  kind : BlockKind
  opener : Line
  body : List Node
  deriving Repr

namespace Program

/-- Puts a finished node into the innermost open block, or outermost when none is open. -/
def attach (n : Node) : List Node → List OpenBlock → List Node × List OpenBlock
  | root, [] => (n :: root, [])
  | root, b :: outer => (root, { b with body := n :: b.body } :: outer)

def unmatchedCloser (l : Line) : Fault :=
  .on l .unmatchedCloser "too many END-style commands (LOOPEND, GENEND, DESCEND) reached"

/-- The fault of a program that ends inside `depth` blocks, at the innermost opener. -/
def unclosedBlock (opener : Line) (depth : Nat) : Fault :=
  ((Fault.on opener .unclosedBlock
    "insufficient END-style commands compared to start-style commands").expecting
    "an equal number of start-style and end-style commands").given
    (toString depth ++ " extra starts or missing ends in your program")

/-- Nests the remaining lines, given the outermost nodes so far (latest first) and the open
blocks (innermost first). -/
def nest (root : List Node) (stack : List OpenBlock) : List Line → Except Fault Program
  | [] =>
      match stack with
      | [] => .ok root.reverse
      | b :: _ => .error (unclosedBlock b.opener stack.length)
  | l :: rest =>
      match BlockKind.ofOpener? l with
      | some kind => nest root (⟨kind, l, []⟩ :: stack) rest
      | none =>
          if l.isCloser then
            match stack with
            | [] => .error (unmatchedCloser l)
            | b :: outer =>
                let (root, stack) := attach (.block b.kind b.opener b.body.reverse l) root outer
                nest root stack rest
          else
            let (root, stack) := attach (.line l) root stack
            nest root stack rest

/-- The program tree of numbered lines. -/
def ofLines (ls : List Line) : Except Fault Program := nest [] [] ls

/-- The program tree of a program text. -/
def ofSource (source : String) : Except Fault Program := ofLines (Line.ofSource source)

end Program

end ProseScript
