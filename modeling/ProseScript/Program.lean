import ProseScript.Line

/-!
Program trees: lines, and blocks of nodes between an opening and a closing line.
-/

namespace ProseScript

inductive BlockKind where
  | loop
  | gen
  | desc
  deriving DecidableEq, Repr

namespace BlockKind

def name : BlockKind → String
  | loop => "LOOP"
  | gen => "GEN"
  | desc => "DESC"

/-- The kind of block that a line opens. -/
def ofOpener? (l : Line) : Option BlockKind :=
  let word := l.keyword
  if word == "LOOP" then some loop
  else if word == "GEN" then some gen
  else if word == "DESC" then some desc
  else none

theorem ofOpener?_eq_some_iff {l : Line} {kind : BlockKind} :
    ofOpener? l = some kind ↔ l.keyword = kind.name := by
  unfold ofOpener?
  cases kind <;> simp only [beq_iff_eq, name] <;> grind

end BlockKind

inductive Node where
  | line (l : Line)
  | block (kind : BlockKind) (opener : Line) (body : List Node) (closer : Line)
  deriving Repr

/-- A program is the sequence of its outermost nodes. -/
abbrev Program := List Node

namespace Node

/-- The line a node begins with. -/
def firstLine : Node → Line
  | line l => l
  | block _ opener _ _ => opener

/-- A block as the sequence of its opener, body and closer. -/
def sequence : Node → List Node
  | line l => [line l]
  | block _ opener body closer => line opener :: (body ++ [line closer])

mutual

/-- The source lines of a node, in order. -/
def lines : Node → List Line
  | line l => [l]
  | block _ opener body closer => opener :: (linesOf body ++ [closer])

/-- The source lines of a node sequence, in order. -/
def linesOf : List Node → List Line
  | [] => []
  | n :: rest => n.lines ++ linesOf rest

end

@[simp] theorem linesOf_append (xs ys : List Node) :
    linesOf (xs ++ ys) = linesOf xs ++ linesOf ys := by
  induction xs with
  | nil => simp [linesOf]
  | cons x xs ih => simp [linesOf, ih]

end Node

/-- The source lines of a program, in order. -/
def Program.lines (p : Program) : List Line := Node.linesOf p

end ProseScript
