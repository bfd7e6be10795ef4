import ProseScript.Format.Code

/-!
Formats: sequences of codes, applied to a sentence one after the other.
-/

namespace ProseScript

abbrev Format := List FormatCode

/-- The letters of a format text that are no codes, each once, in upper case. -/
structure UnknownCodes where
  letters : List Char
  deriving DecidableEq, Repr

def UnknownCodes.message (e : UnknownCodes) : String :=
  "invalid letter codes: " ++ String.ofList e.letters

namespace Format

/-- Article, capital, period and a space after. -/
def standard : Format := [.article, .capitalize, .period, .space]

/-- Reads code letters in either case. -/
def ofText (s : String) : Except UnknownCodes Format :=
  let letters := s.toList.map Char.toUpper
  let unknown := (letters.filter fun c => (FormatCode.ofLetter? c).isNone).eraseDups
  if unknown.isEmpty then .ok (letters.filterMap FormatCode.ofLetter?) else .error ⟨unknown⟩

def render (f : Format) : String := String.ofList (f.map FormatCode.letter)

def apply (f : Format) (s : String) : String := f.foldl (fun acc code => code.apply acc) s

/-- Codes joined act one after the other. -/
theorem apply_append (f g : Format) (s : String) : apply (f ++ g) s = apply g (apply f s) := by
  simp [apply]

end Format

end ProseScript
