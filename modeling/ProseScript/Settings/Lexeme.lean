/-!
The lexemes of settings texts: gaps with comments, symbols, identifiers, quoted texts and whole
numbers.
-/

namespace ProseScript.Settings

/-- A reader takes a value off the front of a text, and gives the rest. -/
abbrev Reader (α : Type) := List Char → Option (α × List Char)

/-- Where the reader of a gap stands: outside comments, in a line comment, or in a block comment
inside `depth` others. -/
inductive Gap where
  | between
  | line
  | block (depth : Nat)
  deriving DecidableEq, Repr

def isSpace (c : Char) : Bool := c == ' ' || c == '\t' || c == '\n' || c == '\r'

/-- Skips blanks and comments. Block comments nest and must be closed. -/
def skipGap : Gap → List Char → Option (List Char)
  | .between, [] => some []
  | .between, '/' :: '/' :: rest => skipGap .line rest
  | .between, '/' :: '*' :: rest => skipGap (.block 0) rest
  | .between, c :: rest =>
      if c = '/' then none else if isSpace c then skipGap .between rest else some (c :: rest)
  | .line, [] => some []
  | .line, c :: rest => skipGap (if c = '\n' then .between else .line) rest
  | .block _, [] => none
  | .block depth, '/' :: '*' :: rest => skipGap (.block (depth + 1)) rest
  | .block 0, '*' :: '/' :: rest => skipGap .between rest
  | .block (depth + 1), '*' :: '/' :: rest => skipGap (.block depth) rest
  | .block depth, _ :: rest => skipGap (.block depth) rest

def skip (cs : List Char) : Option (List Char) := skipGap .between cs

/-- Skips a gap and one given symbol. -/
def symbol (c : Char) (cs : List Char) : Option (List Char) :=
  match skip cs with
  | some (x :: rest) => if x = c then some rest else none
  | _ => none

/-- Skips a gap, a comma if there is one, and the gap after it. -/
def comma : Reader Bool := fun cs => do
  match ← skip cs with
  | ',' :: rest => return (true, ← skip rest)
  | cs => return (false, cs)

def isWordStart (c : Char) : Bool := c.isAlpha || c == '_'

def isWordPart (c : Char) : Bool := c.isAlphanum || c == '_'

/-- Skips a given word, unless a longer word begins with it. -/
def word (w : String) (cs : List Char) : Option (List Char) :=
  if w.toList.isPrefixOf cs then
    match cs.drop w.length with
    | [] => some []
    | c :: rest => if isWordPart c then none else some (c :: rest)
  else none

/-- A raw identifier may also hold periods and signs. -/
def isRawPart (c : Char) : Bool := isWordPart c || c == '.' || c == '+' || c == '-'

/-- An identifier, plain or raw (`r#name`). A quoted text that begins with `r` is none. -/
def identifier : Reader String := fun cs =>
  let plain : Option (String × List Char) :=
    match cs with
    | c :: _ =>
        if isWordStart c then
          some (String.ofList (cs.takeWhile isWordPart), cs.dropWhile isWordPart)
        else none
    | [] => none
  match cs with
  | 'r' :: '"' :: _ => none
  | 'r' :: '#' :: rest =>
      match rest with
      | c :: _ =>
          if isRawPart c then
            some (String.ofList (rest.takeWhile isRawPart), rest.dropWhile isRawPart)
          else none
      | [] => none
  | _ => plain

def hexValue? (c : Char) : Option Nat :=
  if c.isDigit then some (c.toNat - 48)
  else if 'a' ≤ c ∧ c ≤ 'f' then some (c.toNat - 87)
  else if 'A' ≤ c ∧ c ≤ 'F' then some (c.toNat - 55)
  else none

/-- The digits of a code point up to the closing brace: one to six of them. -/
def codePoint : Nat → Nat → Reader Nat
  | digits, n, '\x7d' :: rest => if digits = 0 then none else some (n, rest)
  | digits, n, c :: rest =>
      if digits < 6 then
        match hexValue? c with
        | some d => codePoint (digits + 1) (16 * n + d) rest
        | none => none
      else none
  | _, _, [] => none

/-- The character of a code point, unless it is a surrogate or out of range. -/
def charOf? (n : Nat) : Option Char := if n.isValidChar then some (Char.ofNat n) else none

/-- The character after a backslash, in any of its spellings. -/
def escape : Reader Char
  | '\'' :: rest => some ('\'', rest)
  | '"' :: rest => some ('"', rest)
  | '\\' :: rest => some ('\\', rest)
  | 'n' :: rest => some ('\n', rest)
  | 'r' :: rest => some ('\r', rest)
  | 't' :: rest => some ('\t', rest)
  | '0' :: rest => some ('\x00', rest)
  | 'x' :: a :: b :: rest =>
      match hexValue? a, hexValue? b with
      | some m, some n => some (Char.ofNat (16 * m + n), rest)
      | _, _ => none
  | 'u' :: '\x7b' :: rest =>
      match codePoint 0 0 rest with
      | some (n, rest) => (charOf? n).map fun c => (c, rest)
      | none => none
  | _ => none

/-- The inside of a quoted text up to its closing quote, within as many steps as `fuel`. -/
def quotedTail : Nat → Reader (List Char)
  | 0, _ => none
  | _ + 1, [] => none
  | _ + 1, '"' :: rest => some ([], rest)
  | fuel + 1, '\\' :: rest => do
      let (c, rest) ← escape rest
      let (text, rest) ← quotedTail fuel rest
      return (c :: text, rest)
  | fuel + 1, c :: rest => do
      let (text, rest) ← quotedTail fuel rest
      return (c :: text, rest)

/-- The inside of a raw text up to a quote and as many hashes as opened it. -/
def rawTail (hashes : List Char) : Reader (List Char)
  | [] => none
  | c :: rest =>
      if c = '"' && hashes.isPrefixOf rest then some ([], rest.drop hashes.length)
      else (rawTail hashes rest).map fun (text, rest) => (c :: text, rest)

/-- A quoted text, with escapes or raw. -/
def quoted : Reader String
  | '"' :: rest =>
      (quotedTail (rest.length + 1) rest).map fun (text, rest) => (String.ofList text, rest)
  | 'r' :: rest =>
      let hashes := rest.takeWhile (· == '#')
      match rest.drop hashes.length with
      | '"' :: rest => (rawTail hashes rest).map fun (text, rest) => (String.ofList text, rest)
      | _ => none
  | _ => none

/-- The value of digits in a base; underscores between digits count for nothing. -/
def digitsIn (base : Nat) : List Char → Option Nat :=
  List.foldlM (fun n c =>
    if c = '_' then some n
    else match hexValue? c with
      | some d => if d < base then some (base * n + d) else none
      | none => none) 0

/-- What may stand in a whole number of any base. -/
def isDigitPart (c : Char) : Bool := (hexValue? c).isSome || c == '_'

/-- A whole number without a sign, decimal or after `0x`, `0b` or `0o`. -/
def numeral : Reader Nat := fun cs =>
  let (base, cs) := match cs with
    | '0' :: 'x' :: rest => (16, rest)
    | '0' :: 'b' :: rest => (2, rest)
    | '0' :: 'o' :: rest => (8, rest)
    | cs => (10, cs)
  match cs.takeWhile isDigitPart with
  | [] => none
  | '_' :: _ => none
  | digits => (digitsIn base digits).map fun n => (n, cs.dropWhile isDigitPart)

/-- A whole number below `2 ^ 64`. -/
def natural : Reader Nat := fun cs => (numeral cs).filter fun (n, _) => n < UInt64.size

end ProseScript.Settings
