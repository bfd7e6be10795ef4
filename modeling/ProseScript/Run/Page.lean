import ProseScript.Amount
import ProseScript.Run.State

/-!
Commands of the page: formats, breaks, chapters and displays.
-/

namespace ProseScript.Run

/-- `FORMAT codes` -/
def setFormat (l : Line) (s : State) : Except Fault State :=
  match l.paramWords with
  | [codes] =>
      match Format.ofText codes with
      | .ok format => .ok { s with format }
      | .error e => .error (.on l .unknownFormatCode e.message)
  | params => .error (.parameterCount l "1 string parameter" params.length)

/-- Writes a fixed sentence under a fixed code, whatever the format. -/
def writeFixed (l : Line) (code : FormatCode) (sentence : String) (s : State) :
    Except Fault State :=
  if l.params.isEmpty then .ok (s.pushSentence (code.apply sentence))
  else .error ((Fault.on l .parameterCount "command takes no parameters").expecting "no parameters")

/-- `NEWLINE` -/
def newLine (l : Line) (s : State) : Except Fault State := writeFixed l .lineAfter " " s

/-- `NEWPARA` -/
def newPara (l : Line) (s : State) : Except Fault State := writeFixed l .paragraphAfter " " s

/-- There is no number for another chapter. -/
def lastChapter (s : State) : Bool := decide (UInt32.size ≤ s.chapter.toNat + 1)

/-- `NEWCHAPTER`, where there is a number for another chapter. -/
def newChapter (l : Line) (s : State) : Except Fault State :=
  let chapter := s.chapter + 1
  writeFixed l .subheading ("Chapter " ++ toString chapter) { s with chapter }

/-- The text that a display command shows. -/
def displayText (l : Line) (sentences : List String) : String :=
  let place := "DISPLAY COMMAND " ++ l.text ++ " in line " ++ toString l.number ++ "---"
  "\n---BEGIN " ++ place ++ "\n" ++ String.intercalate "\n" sentences ++ "\n---END " ++ place

def showSentences (l : Line) (sentences : List String) (s : State) : State :=
  { s with shown := s.shown.push (displayText l sentences) }

/-- `DISPLAY [n]` shows all sentences, the first `n`, or the last ones when `n` is negative. -/
def display (l : Line) (s : State) : Except Fault State :=
  let sentences := s.output.toList
  match l.paramWords with
  | [] => .ok (showSentences l sentences s)
  | [count] =>
      match offset? count with
      | none => .error (.parameterValue l "a non-zero numerical parameter" count)
      | some n =>
          let wanted := n.natAbs
          if sentences.length < wanted then
            let warning := Warning.mild
              "the number of sentences requested is larger than the story; displaying all sentences"
            .ok (showSentences l sentences (s.warn (warning.on l)))
          else if 0 < n then .ok (showSentences l (sentences.take wanted) s)
          else .ok (showSentences l (sentences.drop (sentences.length - wanted)) s)
  | params => .error (.parameterCount l "0 or 1 numeric parameters" params.length)

end ProseScript.Run
