import ProseScript.Text.Blank

/-!
Texts between double quotes. Nothing inside is escaped.
-/

namespace ProseScript.Text

/-- The text inside a pair of double quotes, blanks around the pair apart. -/
def quoted? (s : String) : Option String :=
  match trimChars s.toList with
  | '"' :: rest =>
      match rest.reverse with
      | '"' :: inner => some (String.ofList inner.reverse)
      | _ => none
  | _ => none

end ProseScript.Text
