import ProseScript.Settings.Reader

/-!
Skipping a settings value of any form. The levels of nesting are counted down, and a text that
nests deeper than they allow is refused.
-/

namespace ProseScript.Settings

/-- Skips something at the front of a text, and gives the rest. -/
abbrev Skipper := List Char → Option (List Char)

/-- The characters after a sign, if there is one. -/
def afterSign : List Char → List Char
  | '+' :: rest => rest
  | '-' :: rest => rest
  | cs => cs

/-- What may stand in a decimal fraction. An underscore is taken in, and then refused. -/
def isFractionPart (c : Char) : Bool :=
  c.isDigit || c == 'e' || c == 'E' || c == '.' || c == '+' || c == '-' || c == '_'

/-- An exponent: the letter, perhaps a sign, and digits. -/
def isExponent : List Char → Bool
  | c :: rest =>
      let digits := afterSign rest
      (c == 'e' || c == 'E') && !digits.isEmpty && digits.all Char.isDigit
  | [] => false

/-- A decimal fraction: perhaps a sign, digits with at most one point among them, and perhaps an
exponent. -/
def isFraction (cs : List Char) : Bool :=
  let cs := afterSign cs
  let front := cs.takeWhile Char.isDigit
  let (back, rest) := match cs.dropWhile Char.isDigit with
    | '.' :: rest => (rest.takeWhile Char.isDigit, rest.dropWhile Char.isDigit)
    | rest => ([], rest)
  (!front.isEmpty || !back.isEmpty) && (rest.isEmpty || isExponent rest)

/-- Skips a decimal fraction, or a word for a number that has no digits. -/
def skipFraction : Skipper := fun cs =>
  match ["inf", "+inf", "-inf", "NaN", "+NaN", "-NaN"].findSome? fun w => word w cs with
  | some rest => some rest
  | none =>
      if isFraction (cs.takeWhile isFractionPart) then some (cs.dropWhile isFractionPart) else none

/-- Skips a whole number that fits in 64 bits, of which a sign takes one. -/
def skipWhole : Skipper
  | '-' :: rest => ((numeral rest).filter fun (n, _) => n ≤ UInt64.size / 2).map Prod.snd
  | '+' :: rest => ((numeral rest).filter fun (n, _) => n < UInt64.size / 2).map Prod.snd
  | cs => (natural cs).map Prod.snd

/-- Skips a number. What cannot be a whole number is tried as a fraction. -/
def skipNumber : Skipper := fun cs =>
  let digits := afterSign cs
  if (digits.takeWhile isDigitPart).length < (digits.takeWhile isFractionPart).length then
    skipFraction cs
  else match skipWhole cs with
    | some rest => some rest
    | none => skipFraction cs

/-- Skips a character and its closing single quote. -/
def skipCharacter : Skipper := fun cs => do
  let (_, rest) ← match cs with
    | '\\' :: rest => escape rest
    | '\'' :: _ => none
    | c :: rest => some (c, rest)
    | [] => none
  match rest with
  | '\'' :: rest => some rest
  | _ => none

/-- Tells from the inside of a round bracket whether it holds fields by name: its first entry is a
name with a colon after it. -/
def holdsFields (cs : List Char) : Option Bool := do
  match identifier (← skip cs) with
  | none => some false
  | some (_, rest) =>
      match ← skip rest with
      | [] => none
      | c :: _ => some (c == ':')

/-- Skips a key, its colon, and a value. -/
def skipPair (key value : Skipper) : Skipper := fun cs => do
  value (← skip (← symbol ':' (← key cs)))

def skipIdentifier : Skipper := fun cs => (identifier cs).map Prod.snd

/-- Skips entries between an opening and a closing symbol. -/
def skipEnclosed (start close : Char) (entry : Skipper) : Skipper := fun cs =>
  (enclosed start close (fun () cs => (entry cs).map fun cs => ((), cs)) () cs).map Prod.snd

/-- How to skip what stands inside a value. -/
structure Inside where
  /-- Whether a bracket may be opened. -/
  enter : Bool
  /-- Skips the value within `Some`. -/
  optional : Skipper
  /-- Skips a member of a bracket. -/
  member : Skipper

/-- Skips a bracket, unless there are no levels left for it. -/
def skipBracket (i : Inside) (start close : Char) (entry : Skipper) : Skipper :=
  if i.enter then skipEnclosed start close entry else fun _ => none

/-- Skips fields or values in a round bracket, if one is there. -/
def skipRound (i : Inside) : Skipper
  | '(' :: rest => do
      let entry := if ← holdsFields rest then skipPair skipIdentifier i.member else i.member
      skipBracket i '(' ')' entry ('(' :: rest)
  | cs => some cs

/-- Skips the value after `Some`, which may go without a bracket if the dialect allows it. -/
def skipSome (d : Dialect) (i : Inside) : Skipper := fun cs => do
  match ← skip cs with
  | '(' :: rest =>
      let (_, rest) ← comma (← i.optional (← skip rest))
      symbol ')' rest
  | rest => if d.implicitSome then i.optional rest else none

/-- Skips a value that begins with a symbol, a digit or a quote. -/
def skipMarked (i : Inside) : Skipper
  | '(' :: rest => skipRound i ('(' :: rest)
  | '[' :: rest => skipBracket i '[' ']' i.member ('[' :: rest)
  | '\x7b' :: rest =>
      skipBracket i '\x7b' '\x7d' (skipPair i.member i.member) ('\x7b' :: rest)
  | '\'' :: rest => skipCharacter rest
  | '.' :: rest => skipFraction ('.' :: rest)
  | c :: rest =>
      if c == '"' || c == 'r' then (quoted (c :: rest)).map Prod.snd
      else if c.isDigit || c == '+' || c == '-' then skipNumber (c :: rest)
      else none
  | [] => none

/-- Skips one value, given how to skip what stands inside it. -/
def skipOne (d : Dialect) (i : Inside) : Skipper := fun cs =>
  match ["true", "false", "None", "inf", "NaN"].findSome? fun w => word w cs with
  | some rest => some rest
  | none =>
      match word "Some" cs, cs, identifier cs with
      | some rest, _, _ => skipSome d i rest
      | none, '(' :: ')' :: rest, _ => some rest
      | none, _, some (_, rest) => (skip rest).bind (skipRound i)
      | none, cs, none => skipMarked i cs

/-- Skips any value. A bracket takes one level and each of its members another; the value within
`Some` takes one. -/
def skipValue (d : Dialect) : Nat → Skipper
  | 0 => skipOne d ⟨false, fun _ => none, fun _ => none⟩
  | 1 => skipOne d ⟨true, skipValue d 0, fun _ => none⟩
  | levels + 2 => skipOne d ⟨true, skipValue d (levels + 1), skipValue d levels⟩

end ProseScript.Settings
