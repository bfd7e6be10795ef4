import ProseScript.Text.Blank
import ProseScript.Text.Split

/-!
The number of words in written sentences. Markup is no word.
-/

namespace ProseScript.WordCount

/-- Marks of headings, quotations, rules and line breaks. -/
def markers : List String := ["# ", "> ", "\n\n--- ", " \n# ", " \n "]

/-- The number of runs of spaces; `inside` tells whether the text begins inside one. -/
def spaceRuns : Bool → List Char → Nat
  | _, [] => 0
  | inside, c :: rest =>
      if c = ' ' then (if inside then 0 else 1) + spaceRuns true rest else spaceRuns false rest

/-- One word more than there are runs of spaces, less one for each kind of marker in sight. -/
def ofSentence (s : String) : Nat :=
  let trimmed := Text.trimChars s.toList
  if trimmed.isEmpty then 0
  else 1 + spaceRuns false trimmed - (markers.filter (Text.holds s)).length

def ofOutput : List String → Nat
  | [] => 0
  | sentence :: rest => ofSentence sentence + ofOutput rest

theorem ofOutput_append (xs ys : List String) :
    ofOutput (xs ++ ys) = ofOutput xs + ofOutput ys := by
  induction xs with
  | nil => simp [ofOutput]
  | cons sentence rest ih =>
    rw [List.cons_append, ofOutput, ofOutput, ih]
    omega

end ProseScript.WordCount
