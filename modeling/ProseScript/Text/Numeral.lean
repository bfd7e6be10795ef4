/-!
Decimal numerals.
-/

namespace ProseScript.Text

/-- The value of digits read most significant first. -/
def digitsValue (cs : List Char) : Nat := cs.foldl (fun n c => 10 * n + (c.toNat - 48)) 0

/-- The value of a numeral: one or more ASCII digits. -/
def numeral? (cs : List Char) : Option Nat :=
  if cs ≠ [] ∧ cs.all Char.isDigit then some (digitsValue cs) else none

theorem numeral?_eq_some_iff {cs : List Char} {n : Nat} :
    numeral? cs = some n ↔ cs ≠ [] ∧ (∀ c ∈ cs, c.isDigit = true) ∧ n = digitsValue cs := by
  simp only [numeral?, List.all_eq_true, Option.ite_none_right_eq_some, Option.some.injEq]
  constructor
  · rintro ⟨⟨h, hd⟩, rfl⟩
    exact ⟨h, hd, rfl⟩
  · rintro ⟨h, hd, rfl⟩
    exact ⟨⟨h, hd⟩, rfl⟩

end ProseScript.Text
