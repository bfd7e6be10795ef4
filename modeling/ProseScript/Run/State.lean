import ProseScript.Fault
import ProseScript.Format
import ProseScript.Gender
import ProseScript.Store
import ProseScript.WordCount

/-!
The state that a run carries from line to line, and what a run starts from.
-/

namespace ProseScript

structure State where
  /-- The format of written sentences. -/
  format : Format
  /-- The number of the last chapter begun. -/
  chapter : UInt32
  /-- The sentences written so far. -/
  output : Array String
  /-- The number of words in the output. -/
  wordCount : Nat
  /-- The line last begun. -/
  current : Option Line
  genders : Genders
  store : Store
  warnings : Array Warning
  /-- The texts displayed so far. -/
  shown : Array String
  chance : Chance

namespace State

/-- Appends a finished sentence and counts its words. -/
def pushSentence (s : State) (sentence : String) : State :=
  { s with
    output := s.output.push sentence
    wordCount := s.wordCount + WordCount.ofSentence sentence }

def warn (s : State) (w : Warning) : State := { s with warnings := s.warnings.push w }

def warnAll (s : State) (ws : List Warning) : State := ws.foldl warn s

/-- The value of a name, wherever it is stored. -/
def lookup (s : State) (name : String) : Option View := s.store.lookup name .all

@[simp] theorem output_pushSentence (s : State) (t : String) :
    (s.pushSentence t).output = s.output.push t := rfl

end State

/-- What a run starts from. -/
structure Setup where
  words : Catalog
  sentences : Catalog
  genders : Genders
  format : Format
  /-- The name that reads as the whole word folder. -/
  wordsAlias : String
  /-- The name that reads as the whole sentence folder. -/
  sentencesAlias : String
  deriving Repr

namespace Setup

/-- The store of a fresh run. Of two equal aliases the one of the sentences counts. -/
def store (u : Setup) : Store :=
  ((Store.ofFolders u.words u.sentences).setAlias u.wordsAlias .words).setAlias u.sentencesAlias
    .sentences

def initial (u : Setup) (c : Chance) : State where
  format := u.format
  chapter := 0
  output := #[]
  wordCount := 0
  current := none
  genders := u.genders
  store := u.store
  warnings := #[]
  shown := #[]
  chance := c

end Setup

end ProseScript
