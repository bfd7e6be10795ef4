import ProseScript.Text.Blank
import ProseScript.Text.Case
import ProseScript.Text.Split

/-!
Numbered program lines: a command word, its parameters, and the marks of comments and closers.
-/

namespace ProseScript

/-- A program line. Its text carries no blanks at either end when built by `Line.ofText`. -/
structure Line where
  number : Nat
  text : String
  deriving DecidableEq, Repr

namespace Line

def ofText (number : Nat) (text : String) : Line := ⟨number, Text.trim text⟩

/-- The lines of a program text, numbered from one. -/
def ofSource (source : String) : List Line :=
  (Text.lines source).zipIdx.map fun (text, i) => ofText (i + 1) text

/-- The first word in upper case; empty on a blank line. -/
def keyword (l : Line) : String := Text.upper ((Text.words l.text).headD "")

/-- Everything after the first word. -/
def params (l : Line) : String :=
  String.ofList (Text.trimChars (l.text.toList.dropWhile fun c => !Text.isBlank c))

def paramWords (l : Line) : List String := Text.words l.params

def isBlank (l : Line) : Bool := l.text.isEmpty

def isComment (l : Line) : Bool := Text.startsWith l.text "#"

/-- Blank lines and comments have no effect. -/
def isIdle (l : Line) : Bool := l.isBlank || l.isComment

/-- A closer begins with `LOOPEND`, `GENEND` or `DESCEND`, or is `END` alone. -/
def isCloser (l : Line) : Bool :=
  let text := Text.upper l.text
  Text.startsWith text "LOOPEND" || Text.startsWith text "GENEND" ||
    Text.startsWith text "DESCEND" || text == "END"

def render (l : Line) : String := toString l.number ++ ": " ++ l.text

@[simp] theorem number_ofText (n : Nat) (s : String) : (ofText n s).number = n := rfl

@[simp] theorem text_ofText (n : Nat) (s : String) : (ofText n s).text = Text.trim s := rfl

end Line

end ProseScript
