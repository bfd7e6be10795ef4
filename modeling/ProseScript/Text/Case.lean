import ProseScript.Text.Case.Tables

/-!
Full case mapping of text. A capital sigma that ends a word has a lower-case form of its own.
-/

namespace ProseScript.Text

/-- The image of a code point under ascending runs, if one of them holds it. -/
def CaseRun.image? : List CaseRun → Nat → Option Nat
  | [], _ => none
  | r :: rest, n =>
      if n < r.first then none
      else if n ≤ r.last then
        if (n - r.first) % r.step = 0 then some (r.image + (n - r.first)) else none
      else image? rest n

/-- One character's form under a case mapping: its expansion, else its image, else itself. -/
def mapCase (runs : List CaseRun) (expansions : List (Nat × List Nat)) (c : Char) : List Char :=
  match CaseRun.image? runs c.toNat with
  | some n => [Char.ofNat n]
  | none =>
      if c.toNat < 128 then [c]
      else match expansions.lookup c.toNat with
        | some ns => ns.map Char.ofNat
        | none => [c]

def upperChar (c : Char) : List Char := mapCase upperRuns upperExpansions c

def lowerChar (c : Char) : List Char := mapCase lowerRuns lowerExpansions c

def isCased (c : Char) : Bool := Span.anyHolds casedSpans c.toNat

def isCaseIgnorable (c : Char) : Bool := Span.anyHolds caseIgnorableSpans c.toNat

/-- A cased character comes next once the ignorable ones are passed. -/
def meetsCased (cs : List Char) : Bool :=
  match cs.dropWhile isCaseIgnorable with
  | [] => false
  | c :: _ => isCased c

/-- Lower case after the characters `before`, nearest first. -/
def lowerAfter (before : List Char) : List Char → List Char
  | [] => []
  | c :: rest =>
      (if c = 'Σ' then
        if meetsCased before && !meetsCased rest then ['ς'] else ['σ']
      else lowerChar c) ++ lowerAfter (c :: before) rest

def upper (s : String) : String := String.ofList (s.toList.flatMap upperChar)

def lower (s : String) : String := String.ofList (lowerAfter [] s.toList)

/-- The text with its first character in upper case. -/
def upperFirst (s : String) : String :=
  match s.toList with
  | [] => ""
  | c :: rest => String.ofList (upperChar c ++ rest)

/-- The text with its first character in lower case. -/
def lowerFirst (s : String) : String :=
  match s.toList with
  | [] => ""
  | c :: rest => String.ofList (lowerChar c ++ rest)

/-- Equality up to the case of ASCII letters. -/
def sameWord (s t : String) : Bool := s.toList.map Char.toUpper == t.toList.map Char.toUpper

@[simp] theorem toList_upper (s : String) : (upper s).toList = s.toList.flatMap upperChar := by
  simp [upper]

@[simp] theorem toList_lower (s : String) : (lower s).toList = lowerAfter [] s.toList := by
  simp [lower]

attribute [irreducible] upper lower

end ProseScript.Text
