import ProseScript.Text.Case
import ProseScript.Text.Letter

/-!
Format codes: single letters, each of which changes a sentence in one way. Several add markup.
-/

namespace ProseScript

inductive FormatCode where
  | article | bold | capitalize | heading | exclaim | subheading | newline | ruleAfter | italic
  | ruleBefore | question | lineBefore | comma | paragraphBefore | period | quote | space
  | blockquote | plain | lineAfter | paragraphAfter
  deriving DecidableEq, Repr

namespace FormatCode

/-- The code of an upper-case letter. -/
def ofUpper? : Char → Option FormatCode
  | 'A' => some article
  | 'B' => some bold
  | 'C' => some capitalize
  | 'D' => some heading
  | 'E' => some exclaim
  | 'F' => some subheading
  | 'G' => some newline
  | 'H' => some ruleAfter
  | 'I' => some italic
  | 'J' => some ruleBefore
  | 'K' => some question
  | 'L' => some lineBefore
  | 'M' => some comma
  | 'N' => some paragraphBefore
  | 'P' => some period
  | 'Q' => some quote
  | 'S' => some space
  | 'T' => some blockquote
  | 'X' => some plain
  | 'Y' => some lineAfter
  | 'Z' => some paragraphAfter
  | _ => none

/-- The code of a letter in either case. -/
def ofLetter? (c : Char) : Option FormatCode := ofUpper? c.toUpper

def letter : FormatCode → Char
  | article => 'A'
  | bold => 'B'
  | capitalize => 'C'
  | heading => 'D'
  | exclaim => 'E'
  | subheading => 'F'
  | newline => 'G'
  | ruleAfter => 'H'
  | italic => 'I'
  | ruleBefore => 'J'
  | question => 'K'
  | lineBefore => 'L'
  | comma => 'M'
  | paragraphBefore => 'N'
  | period => 'P'
  | quote => 'Q'
  | space => 'S'
  | blockquote => 'T'
  | plain => 'X'
  | lineAfter => 'Y'
  | paragraphAfter => 'Z'

/-- Inserts `ending` after each `article` that stands before a space and a vowel, and either at a
line's start or after a space that no earlier insertion has used. `ready` tells whether the text
begins at such a place. -/
def joinArticles (article ending : Char) (isVowel : Char → Bool) : Bool → List Char → List Char
  | _, [] => []
  | ready, c :: ' ' :: v :: rest =>
      if ready && c == article && isVowel v then
        c :: ending :: ' ' :: v :: joinArticles article ending isVowel false rest
      else c :: joinArticles article ending isVowel (c == ' ' || c == '\n') (' ' :: v :: rest)
  | _, c :: rest => c :: joinArticles article ending isVowel (c == ' ' || c == '\n') rest

/-- "a" becomes "an" before a small vowel, and then "A" becomes "AN" before a capital one. -/
def articles (cs : List Char) : List Char :=
  joinArticles 'A' 'N' "AEIOU".toList.contains true
    (joinArticles 'a' 'n' "aeiou".toList.contains true cs)

/-- The first letter, wherever it stands, in upper case. -/
def capitalizeLetter : List Char → List Char
  | [] => []
  | c :: rest => if Text.isLetter c then Text.upperChar c ++ rest else c :: capitalizeLetter rest

def apply (code : FormatCode) (s : String) : String :=
  match code with
  | plain => s
  | period => s ++ "."
  | space => s ++ " "
  | question => s ++ "?"
  | exclaim => s ++ "!"
  | comma => s ++ ","
  | capitalize => String.ofList (capitalizeLetter s.toList)
  | newline => s ++ "\n"
  | article => String.ofList (articles s.toList)
  | quote => "\"" ++ s ++ "\""
  | bold => " **" ++ s ++ "** "
  | italic => " *" ++ s ++ "* "
  | lineBefore => "  \n" ++ s
  | ruleAfter => s ++ "  \n\n---   \n"
  | ruleBefore => "  \n\n---   \n" ++ s
  | lineAfter => s ++ "  \n"
  | paragraphBefore => "\n\n" ++ s
  | paragraphAfter => s ++ "\n\n"
  | blockquote => "  \n> " ++ s
  | heading => "  \n# " ++ s ++ "  \n"
  | subheading => "  \n## " ++ s ++ "  \n"

/-- A code is read back from its letter. -/
@[simp] theorem ofLetter?_letter (code : FormatCode) : ofLetter? code.letter = some code := by
  cases code <;> decide

end FormatCode

end ProseScript
