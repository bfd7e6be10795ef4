import ProseScript.Text.Span

/-!
Blanks, the words between them, and lines.
-/

namespace ProseScript.Text

/-- The White_Space characters. -/
def blankSpans : List Span := [
  (0x9, 0xD), (0x20, 0x20), (0x85, 0x85), (0xA0, 0xA0), (0x1680, 0x1680), (0x2000, 0x200A),
  (0x2028, 0x2029), (0x202F, 0x202F), (0x205F, 0x205F), (0x3000, 0x3000)]

def isBlank (c : Char) : Bool := Span.anyHolds blankSpans c.toNat

/-- The characters without the blanks at either end. -/
def trimChars (cs : List Char) : List Char :=
  ((cs.dropWhile isBlank).reverse.dropWhile isBlank).reverse

def trim (s : String) : String := String.ofList (trimChars s.toList)

/-- The maximal blank-free pieces, after the pending piece `word` held in reverse. -/
def wordsFrom (word : List Char) : List Char → List (List Char)
  | [] => if word.isEmpty then [] else [word.reverse]
  | c :: rest =>
      if isBlank c then
        if word.isEmpty then wordsFrom [] rest else word.reverse :: wordsFrom [] rest
      else wordsFrom (c :: word) rest

/-- The maximal blank-free pieces of a text, in order. -/
def words (s : String) : List String := (wordsFrom [] s.toList).map String.ofList

/-- A line that a line feed ends, held in reverse. A carriage return before the feed goes with it. -/
def endedLine : List Char → List Char
  | '\r' :: line => line.reverse
  | line => line.reverse

/-- The pieces between line feeds, after the pending piece `line` held in reverse. -/
def linesFrom (line : List Char) : List Char → List (List Char)
  | [] => if line.isEmpty then [] else [line.reverse]
  | c :: rest => if c = '\n' then endedLine line :: linesFrom [] rest else linesFrom (c :: line) rest

/-- The lines of a text. A line feed ends a line, with the carriage return before it if there is
one, and the last line may go without. -/
def lines (s : String) : List String := (linesFrom [] s.toList).map String.ofList

@[simp] theorem toList_trim (s : String) : (trim s).toList = trimChars s.toList := by
  simp [trim]

theorem trim_ofList (cs : List Char) : trim (String.ofList cs) = String.ofList (trimChars cs) := by
  simp [trim]

-- Proofs go by the lemmas on characters, and a look inside a text that is not known leads nowhere.
attribute [irreducible] trim words

end ProseScript.Text
