import ProseScript.Chance
import ProseScript.Text.Numeral

/-!
Amounts and offsets, as command parameters give them.
-/

namespace ProseScript

/-- What a repetition counts. -/
inductive Counting where
  | cycles
  | words
  deriving DecidableEq, Repr

/-- Where a repetition begins and stops that is to go on by an amount: passes begin at none, words
at those measured. The place to stop at has to fit in 64 bits. -/
def Counting.span? (measured amount : Nat) : Counting → Option (Nat × Nat)
  | cycles => some (0, amount)
  | words =>
      if measured + amount < UInt64.size then some (measured, measured + amount) else none

@[simp]
theorem Counting.span?_cycles (measured amount : Nat) :
    cycles.span? measured amount = some (0, amount) := rfl

theorem Counting.span?_words_eq_some_iff {measured amount start stop : Nat} :
    words.span? measured amount = some (start, stop) ↔
      measured + amount < UInt64.size ∧ measured = start ∧ measured + amount = stop := by
  simp [span?]

theorem Counting.span?_words_eq_none_iff {measured amount : Nat} :
    words.span? measured amount = none ↔ UInt64.size ≤ measured + amount := by
  simp [span?]

theorem Counting.lt_of_span? {counting : Counting} {measured amount start stop : Nat}
    (hamount : 0 < amount) (h : counting.span? measured amount = some (start, stop)) :
    start < stop := by
  cases counting with
  | cycles =>
    obtain ⟨rfl, rfl⟩ : 0 = start ∧ amount = stop := by simpa using h
    exact hamount
  | words =>
    have hspan := span?_words_eq_some_iff.1 h
    omega

/-- A number of passes or of words, fixed or to be drawn from a range. -/
inductive Amount where
  | count (n : Nat)
  | countRange (lo hi : Nat)
  | words (n : Nat)
  | wordRange (lo hi : Nat)
  deriving DecidableEq, Repr

namespace Amount

/-- A numeral that fits in 64 bits. -/
def quantity? (cs : List Char) : Option Nat := (Text.numeral? cs).filter (· < UInt64.size)

/-- A quantity of words carries a final W in either case. -/
def wordQuantity? (cs : List Char) : Option Nat :=
  match cs.reverse with
  | 'W' :: front => quantity? front.reverse
  | 'w' :: front => quantity? front.reverse
  | _ => none

/-- The two sides of the first double hyphen. -/
def splitRange : List Char → Option (List Char × List Char)
  | '-' :: '-' :: rest => some ([], rest)
  | c :: rest => (splitRange rest).map fun (front, back) => (c :: front, back)
  | [] => none

/-- Two rising quantities around a double hyphen. -/
def range? (quantity : List Char → Option Nat) (cs : List Char) : Option (Nat × Nat) :=
  match splitRange cs with
  | none => none
  | some (front, back) =>
      match quantity front, quantity back with
      | some lo, some hi => if lo < hi then some (lo, hi) else none
      | _, _ => none

/-- A number of passes: `n` or `lo--hi`. -/
def ofCount? (s : String) : Option Amount :=
  match quantity? s.toList with
  | some n => some (count n)
  | none => (range? quantity? s.toList).map fun (lo, hi) => countRange lo hi

/-- Any amount: `n`, `lo--hi`, `nW` or `loW--hiW`. -/
def ofText? (s : String) : Option Amount :=
  match ofCount? s with
  | some a => some a
  | none =>
      match wordQuantity? s.toList with
      | some n => some (words n)
      | none => (range? wordQuantity? s.toList).map fun (lo, hi) => wordRange lo hi

def counting : Amount → Counting
  | count _ => .cycles
  | countRange _ _ => .cycles
  | words _ => .words
  | wordRange _ _ => .words

/-- The final quantity; a range takes one draw. -/
def resolve (c : Chance) : Amount → Nat × Chance
  | count n => (n, c)
  | words n => (n, c)
  | countRange lo hi => c.uniform .long lo hi
  | wordRange lo hi => c.uniform .long lo hi

/-- A fixed amount leaves chance alone. -/
theorem resolve_count (c : Chance) (n : Nat) : resolve c (count n) = (n, c) := rfl

end Amount

/-- A whole number other than zero that fits in 64 bits with its sign. -/
def offset? (s : String) : Option Int :=
  match s.toList with
  | '-' :: digits =>
      match Text.numeral? digits with
      | some n => if 0 < n ∧ n ≤ UInt64.size / 2 then some (-(n : Int)) else none
      | none => none
  | digits =>
      match Text.numeral? digits with
      | some n => if 0 < n ∧ n < UInt64.size / 2 then some (n : Int) else none
      | none => none

end ProseScript
