import ProseScript.Line

/-!
The command words of the language.
-/

namespace ProseScript

inductive Command where
  | display | write | format | newLine | newPara | newChapter
  | assignList | assignCatalog | assignGen | wordJoin
  | upCase | lowCase | supCase | slowCase
  | refGender | recite | shift | shuffle | call
  | gen | genEnd | loop | loopEnd | desc | descEnd
  deriving DecidableEq, Repr

namespace Command

def all : List Command := [
  display, write, format, newLine, newPara, newChapter, assignList, assignCatalog, assignGen,
  wordJoin, upCase, lowCase, supCase, slowCase, refGender, recite, shift, shuffle, call,
  gen, genEnd, loop, loopEnd, desc, descEnd]

def name : Command → String
  | display => "DISPLAY"
  | write => "WRITE"
  | format => "FORMAT"
  | newLine => "NEWLINE"
  | newPara => "NEWPARA"
  | newChapter => "NEWCHAPTER"
  | assignList => "ASSIGNLIST"
  | assignCatalog => "ASSIGNCATALOG"
  | assignGen => "ASSIGNGEN"
  | wordJoin => "WORDJOIN"
  | upCase => "UPCASE"
  | lowCase => "LOWCASE"
  | supCase => "SUPCASE"
  | slowCase => "SLOWCASE"
  | refGender => "REFGENDER"
  | recite => "RECITE"
  | shift => "SHIFT"
  | shuffle => "SHUFFLE"
  | call => "CALL"
  | gen => "GEN"
  | genEnd => "GENEND"
  | loop => "LOOP"
  | loopEnd => "LOOPEND"
  | desc => "DESC"
  | descEnd => "DESCEND"

/-- The command a word names, whatever its case. -/
def ofWord? (word : String) : Option Command := all.find? fun c => c.name == Text.upper word

/-- Structural commands open and close blocks and are never run as lines. -/
def isStructural : Command → Bool
  | gen | genEnd | loop | loopEnd | desc | descEnd => true
  | _ => false

/-- The command that a line runs; structural words run nothing. -/
def ofLine? (l : Line) : Option Command := (ofWord? l.keyword).filter fun c => !c.isStructural

end Command

end ProseScript
