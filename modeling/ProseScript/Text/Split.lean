/-!
Dividing and searching text: around an operator that stands between two spaces, at a period, and
for a piece anywhere inside.
-/

namespace ProseScript.Text

/-- Puts a character in front of the first piece. -/
def extendFirst (c : Char) : List (List Char) → List (List Char)
  | [] => [[c]]
  | piece :: rest => (c :: piece) :: rest

/-- The pieces around every leftmost `mark` that has a space on both sides. A space serves one
mark only. -/
def splitAroundChars (mark : Char) : List Char → List (List Char)
  | [] => [[]]
  | ' ' :: m :: ' ' :: rest =>
      if m = mark then [] :: splitAroundChars mark rest
      else extendFirst ' ' (splitAroundChars mark (m :: ' ' :: rest))
  | c :: rest => extendFirst c (splitAroundChars mark rest)

/-- The pieces around every leftmost `mark` that has a space on both sides. -/
def splitAround (mark : Char) (s : String) : List String :=
  (splitAroundChars mark s.toList).map String.ofList

/-- The two sides of the only period in a text. -/
def splitDotted (s : String) : Option (String × String) :=
  match s.toList.span (· ≠ '.') with
  | (front, '.' :: back) =>
      if '.' ∈ back then none else some (String.ofList front, String.ofList back)
  | _ => none

/-- The piece `part` stands somewhere in the characters. -/
def holdsChars (part : List Char) : List Char → Bool
  | [] => part.isEmpty
  | c :: rest => part.isPrefixOf (c :: rest) || holdsChars part rest

def holds (s part : String) : Bool := holdsChars part.toList s.toList

def startsWith (s front : String) : Bool := front.toList.isPrefixOf s.toList

end ProseScript.Text
