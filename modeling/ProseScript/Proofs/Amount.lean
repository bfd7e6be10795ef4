import Mathlib.Data.List.Induction
import Mathlib.Data.Nat.Digits.Defs
import ProseScript.Amount

/-!
How amounts and offsets are written. Main statement: amounts and offsets are read from the texts of one
small grammar and from no others, and an amount that was read resolves to a number between its bounds.
-/

namespace ProseScript

/-- One or more ASCII digits, and the number that they write in base ten. -/
structure Numeral (cs : List Char) (n : Nat) : Prop where
  ne_nil : cs ≠ []
  digits : ∀ c ∈ cs, '0' ≤ c ∧ c ≤ '9'
  value : n = Nat.ofDigits 10 (cs.reverse.map fun c => c.toNat - '0'.toNat)

/-- A numeral of 64 bits. -/
structure Quantity (cs : List Char) (n : Nat) : Prop extends Numeral cs n where
  lt : n < 2 ^ 64

/-- A numeral with or without a minus sign before it. -/
inductive Signed : List Char → Int → Prop
  | plain {cs : List Char} {n : Nat} (h : Numeral cs n) : Signed cs n
  | negative {cs : List Char} {n : Nat} (h : Numeral cs n) : Signed ('-' :: cs) (-n)

namespace Text

theorem digitsValue_eq_ofDigits (cs : List Char) :
    digitsValue cs = Nat.ofDigits 10 (cs.reverse.map fun c => c.toNat - '0'.toNat) := by
  induction cs using List.reverseRecOn with
  | nil => rfl
  | append_singleton cs c ih =>
    have hstep : digitsValue (cs ++ [c]) = 10 * digitsValue cs + (c.toNat - 48) := by
      simp [digitsValue]
    rw [hstep, ih, List.reverse_append, List.reverse_singleton, List.singleton_append, List.map_cons,
      Nat.ofDigits_cons, Nat.add_comm]
    rfl

theorem isDigit_iff {c : Char} : c.isDigit = true ↔ '0' ≤ c ∧ c ≤ '9' := by
  rw [Char.isDigit_iff_toNat, Char.le_def, Char.le_def, UInt32.le_iff_toNat_le,
    UInt32.le_iff_toNat_le]
  rfl

theorem numeral?_iff {cs : List Char} {n : Nat} : numeral? cs = some n ↔ Numeral cs n := by
  rw [numeral?_eq_some_iff, digitsValue_eq_ofDigits]
  constructor
  · intro ⟨hne, hdigits, hvalue⟩
    exact ⟨hne, fun c hc => isDigit_iff.1 (hdigits c hc), hvalue⟩
  · intro h
    exact ⟨h.ne_nil, fun c hc => isDigit_iff.2 (h.digits c hc), h.value⟩

end Text

theorem Numeral.not_mem {cs : List Char} {n : Nat} (h : Numeral cs n) {c : Char}
    (hc : c.isDigit = false) : c ∉ cs := by
  intro hmem
  rw [Text.isDigit_iff.2 (h.digits c hmem)] at hc
  cases hc

namespace Amount

/-- How numbers of passes are written. -/
inductive WrittenCount : List Char → Amount → Prop
  | count {a : List Char} {n : Nat} (h : Quantity a n) : WrittenCount a (.count n)
  | countRange {a b : List Char} {lo hi : Nat} (ha : Quantity a lo) (hb : Quantity b hi)
      (hlt : lo < hi) : WrittenCount (a ++ '-' :: '-' :: b) (.countRange lo hi)

/-- The mark of words, in either case. -/
def WordMark (w : Char) : Prop := w = 'W' ∨ w = 'w'

/-- How amounts are written: as a number of passes, or as one of words. -/
inductive Written : List Char → Amount → Prop
  | passes {cs : List Char} {amount : Amount} (h : WrittenCount cs amount) : Written cs amount
  | words {a : List Char} {n : Nat} {w : Char} (h : Quantity a n) (hw : WordMark w) :
      Written (a ++ [w]) (.words n)
  | wordRange {a b : List Char} {lo hi : Nat} {v w : Char} (ha : Quantity a lo)
      (hb : Quantity b hi) (hv : WordMark v) (hw : WordMark w) (hlt : lo < hi) :
      Written ((a ++ [v]) ++ '-' :: '-' :: (b ++ [w])) (.wordRange lo hi)

/-- The least and the greatest number that an amount may come to. -/
def bounds : Amount → Nat × Nat
  | .count n => (n, n)
  | .countRange lo hi => (lo, hi)
  | .words n => (n, n)
  | .wordRange lo hi => (lo, hi)

variable {cs : List Char} {n lo hi : Nat}

theorem quantity?_iff : quantity? cs = some n ↔ Quantity cs n := by
  rw [quantity?, Option.filter_eq_some_iff, Text.numeral?_iff, decide_eq_true_iff]
  exact ⟨fun ⟨h, hlt⟩ => ⟨h, hlt⟩, fun h => ⟨h.toNumeral, h.lt⟩⟩

theorem wordQuantity?_iff : wordQuantity? cs = some n ↔
    ∃ a w, cs = a ++ [w] ∧ WordMark w ∧ Quantity a n := by
  constructor
  · intro h
    unfold wordQuantity? at h
    split at h
    · next front hcs =>
      exact ⟨front.reverse, 'W', by simpa using congrArg List.reverse hcs, .inl rfl,
        quantity?_iff.1 h⟩
    · next front hcs =>
      exact ⟨front.reverse, 'w', by simpa using congrArg List.reverse hcs, .inr rfl,
        quantity?_iff.1 h⟩
    · cases h
  · intro ⟨a, w, hcs, hw, ha⟩
    have hread := quantity?_iff.2 ha
    rcases hw with rfl | rfl
    · simp [hcs, wordQuantity?, hread]
    · simp [hcs, wordQuantity?, hread]

section Range

theorem eq_of_splitRange {front back : List Char} (h : splitRange cs = some (front, back)) :
    cs = front ++ '-' :: '-' :: back := by
  fun_induction splitRange cs generalizing front with
  | case1 rest =>
    obtain ⟨rfl, rfl⟩ := Prod.mk.inj (Option.some.inj h)
    rfl
  | case2 c rest _ ih =>
    obtain ⟨⟨front', back'⟩, hrest, heq⟩ := Option.map_eq_some_iff.1 h
    obtain ⟨rfl, rfl⟩ := Prod.mk.inj heq
    rw [ih hrest, List.cons_append]
  | case3 => cases h

theorem splitRange_append {front : List Char} (h : '-' ∉ front) (back : List Char) :
    splitRange (front ++ '-' :: '-' :: back) = some (front, back) := by
  induction front with
  | nil => rfl
  | cons c front ih =>
    obtain ⟨hc, hrest⟩ := not_or.1 (mt List.mem_cons.2 h)
    have hne : c ≠ '-' := fun heq => hc heq.symm
    simp [splitRange, hne, ih hrest]

variable {quantity : List Char → Option Nat} (hplain : ∀ {a n}, quantity a = some n → '-' ∉ a)
include hplain

/-- A range is two rising quantities around a double hyphen, as no quantity has a hyphen. -/
theorem range?_iff : range? quantity cs = some (lo, hi) ↔
    ∃ a b, cs = a ++ '-' :: '-' :: b ∧ quantity a = some lo ∧ quantity b = some hi ∧ lo < hi := by
  constructor
  · intro h
    unfold range? at h
    split at h
    · cases h
    · next a b hsplit =>
      split at h
      · next lo' hi' ha hb =>
        obtain ⟨hlt, heq⟩ := Option.ite_none_right_eq_some.1 h
        obtain ⟨rfl, rfl⟩ := Prod.mk.inj (Option.some.inj heq)
        exact ⟨a, b, eq_of_splitRange hsplit, ha, hb, hlt⟩
      · cases h
  · intro ⟨a, b, hcs, ha, hb, hlt⟩
    simp [range?, hcs, splitRange_append (hplain ha), ha, hb, hlt]

theorem eq_none_of_range (a b : List Char) : quantity (a ++ '-' :: '-' :: b) = none := by
  rw [Option.eq_none_iff_forall_ne_some]
  intro n hn
  exact hplain hn (by simp)

end Range

theorem not_mem_of_quantity? (h : quantity? cs = some n) : '-' ∉ cs :=
  (quantity?_iff.1 h).not_mem rfl

/-- A mark of words is no part of a number of passes. -/
theorem WordMark.plain {w : Char} (hw : WordMark w) : w.isDigit = false ∧ w ≠ '-' := by
  rcases hw with rfl | rfl
  · exact ⟨rfl, by decide⟩
  · exact ⟨rfl, by decide⟩

theorem not_mem_of_wordQuantity? (h : wordQuantity? cs = some n) : '-' ∉ cs := by
  obtain ⟨front, w, rfl, hw, hfront⟩ := wordQuantity?_iff.1 h
  simp [hfront.not_mem, hw.plain.2.symm]

theorem WrittenCount.not_mem {amount : Amount} (h : WrittenCount cs amount) {w : Char}
    (hw : WordMark w) : w ∉ cs := by
  obtain ⟨hdigit, hhyphen⟩ := hw.plain
  cases h with
  | count h => exact h.not_mem hdigit
  | countRange ha hb _ => simp [ha.not_mem hdigit, hb.not_mem hdigit, hhyphen]

theorem ofCount?_iff {s : String} {amount : Amount} :
    ofCount? s = some amount ↔ WrittenCount s.toList amount := by
  constructor
  · intro h
    unfold ofCount? at h
    split at h
    · next n hn =>
      obtain rfl := Option.some.inj h
      exact .count (quantity?_iff.1 hn)
    · obtain ⟨⟨lo, hi⟩, hrange, rfl⟩ := Option.map_eq_some_iff.1 h
      obtain ⟨a, b, hs, ha, hb, hlt⟩ := (range?_iff not_mem_of_quantity?).1 hrange
      rw [hs]
      exact .countRange (quantity?_iff.1 ha) (quantity?_iff.1 hb) hlt
  · intro h
    unfold ofCount?
    generalize s.toList = cs at h ⊢
    cases h with
    | count h => rw [quantity?_iff.2 h]
    | @countRange a b lo hi ha hb hlt =>
      have hnone := eq_none_of_range not_mem_of_quantity? a b
      have hrange := (range?_iff not_mem_of_quantity?).2
        ⟨a, b, rfl, quantity?_iff.2 ha, quantity?_iff.2 hb, hlt⟩
      rw [hnone, hrange]
      rfl

theorem ofText?_iff {s : String} {amount : Amount} :
    ofText? s = some amount ↔ Written s.toList amount := by
  constructor
  · intro h
    unfold ofText? at h
    split at h
    · next a ha =>
      obtain rfl := Option.some.inj h
      exact .passes (ofCount?_iff.1 ha)
    · split at h
      · next n hn =>
        obtain rfl := Option.some.inj h
        obtain ⟨a, w, hs, hw, ha⟩ := wordQuantity?_iff.1 hn
        rw [hs]
        exact .words ha hw
      · obtain ⟨⟨lo, hi⟩, hrange, rfl⟩ := Option.map_eq_some_iff.1 h
        obtain ⟨front, back, hs, hfront, hback, hlt⟩ :=
          (range?_iff not_mem_of_wordQuantity?).1 hrange
        obtain ⟨a, v, rfl, hv, ha⟩ := wordQuantity?_iff.1 hfront
        obtain ⟨b, w, rfl, hw, hb⟩ := wordQuantity?_iff.1 hback
        rw [hs]
        exact .wordRange ha hb hv hw hlt
  · intro h
    -- A text with a mark of words is not read as a number of passes.
    have hnone {w : Char} (hw : WordMark w) (hmem : w ∈ s.toList) : ofCount? s = none := by
      rw [Option.eq_none_iff_forall_ne_some]
      intro amount hread
      exact (ofCount?_iff.1 hread).not_mem hw hmem
    unfold ofText?
    generalize hs : s.toList = cs at h hnone ⊢
    cases h with
    | passes h => rw [ofCount?_iff.2 (hs ▸ h)]
    | @words a n w h hw =>
      have hread : wordQuantity? (a ++ [w]) = some n := wordQuantity?_iff.2 ⟨a, w, rfl, hw, h⟩
      rw [hnone hw (by simp), hread]
    | @wordRange a b lo hi v w ha hb hv hw hlt =>
      have hsingle := eq_none_of_range not_mem_of_wordQuantity? (a ++ [v]) (b ++ [w])
      have hrange := (range?_iff not_mem_of_wordQuantity?).2
        ⟨a ++ [v], b ++ [w], rfl, wordQuantity?_iff.2 ⟨a, v, rfl, hv, ha⟩,
          wordQuantity?_iff.2 ⟨b, w, rfl, hw, hb⟩, hlt⟩
      rw [hnone hv (by simp), hsingle, hrange]
      rfl

theorem Written.bounds_le {amount : Amount} (h : Written cs amount) :
    amount.bounds.1 ≤ amount.bounds.2 := by
  cases h with
  | passes h =>
    cases h with
    | count _ => exact le_refl _
    | countRange _ _ hlt => exact hlt.le
  | words _ _ => exact le_refl _
  | wordRange _ _ _ _ hlt => exact hlt.le

theorem resolve_mem {amount : Amount} (h : amount.bounds.1 ≤ amount.bounds.2) (c : Chance) :
    amount.bounds.1 ≤ (amount.resolve c).1 ∧ (amount.resolve c).1 ≤ amount.bounds.2 := by
  cases amount with
  | count n => exact ⟨le_refl _, le_refl _⟩
  | words n => exact ⟨le_refl _, le_refl _⟩
  | countRange lo hi => exact Chance.uniform_mem .long h c
  | wordRange lo hi => exact Chance.uniform_mem .long h c

end Amount

theorem offset?_iff {s : String} {z : Int} :
    offset? s = some z ↔ Signed s.toList z ∧ z ≠ 0 ∧ -2 ^ 63 ≤ z ∧ z < 2 ^ 63 := by
  have hhalf : UInt64.size / 2 = 2 ^ 63 := by decide
  constructor
  · intro h
    unfold offset? at h
    rw [hhalf] at h
    split at h
    · next digits hs =>
      split at h
      · next n hn =>
        obtain ⟨⟨hpos, hle⟩, heq⟩ := Option.ite_none_right_eq_some.1 h
        obtain rfl := Option.some.inj heq
        rw [hs]
        refine ⟨.negative (Text.numeral?_iff.1 hn), ?_, ?_, ?_⟩ <;> omega
      · cases h
    · split at h
      · next n hn =>
        obtain ⟨⟨hpos, hlt⟩, heq⟩ := Option.ite_none_right_eq_some.1 h
        obtain rfl := Option.some.inj heq
        refine ⟨.plain (Text.numeral?_iff.1 hn), ?_, ?_, ?_⟩ <;> omega
      · cases h
  · intro ⟨h, hne, hlow, hhigh⟩
    unfold offset?
    rw [hhalf]
    generalize s.toList = cs at h ⊢
    cases h with
    | @negative digits n h =>
      have hfits : 0 < n ∧ n ≤ 2 ^ 63 := by omega
      simp only [Text.numeral?_iff.2 h, if_pos hfits]
    | @plain _ n h =>
      have hfits : 0 < n ∧ n < 2 ^ 63 := by omega
      split
      · exact absurd List.mem_cons_self (h.not_mem rfl)
      · simp only [Text.numeral?_iff.2 h, if_pos hfits]

/-- The grammar of numeric parameters. An amount is read from a text exactly when it is written so: a
quantity, two rising quantities around a double hyphen, or either with a mark of words on each
quantity. As a number of passes only the first two are read. An offset is read exactly from numerals
with or without a minus sign that are not zero and fit in 64 bits with their sign. And whatever is
drawn, an amount that was read comes to a number between its bounds. -/
theorem parameters_follow_grammar :
    (∀ (s : String) (amount : Amount),
      Amount.ofText? s = some amount ↔ Amount.Written s.toList amount) ∧
    (∀ (s : String) (amount : Amount),
      Amount.ofCount? s = some amount ↔ Amount.WrittenCount s.toList amount) ∧
    (∀ (s : String) (z : Int), offset? s = some z ↔
      Signed s.toList z ∧ z ≠ 0 ∧ -2 ^ 63 ≤ z ∧ z < 2 ^ 63) ∧
    ∀ (s : String) (amount : Amount) (c : Chance), Amount.ofText? s = some amount →
      amount.bounds.1 ≤ (amount.resolve c).1 ∧ (amount.resolve c).1 ≤ amount.bounds.2 := by
  refine ⟨fun _ _ => Amount.ofText?_iff, fun _ _ => Amount.ofCount?_iff, fun _ _ => offset?_iff, ?_⟩
  intro s amount c h
  exact Amount.resolve_mem (Amount.ofText?_iff.1 h).bounds_le c

/-- A range of words with zeros before and both cases of the mark, which is no number of passes; and
the least offset there is. -/
theorem parameters_follow_grammar_words :
    let text := "007W--10w"
    Amount.ofText? text = some (.wordRange 7 10) ∧ Amount.Written text.toList (.wordRange 7 10) ∧
    (∀ amount, ¬ Amount.WrittenCount text.toList amount) ∧
    (∀ c : Chance, 7 ≤ (Amount.resolve c (.wordRange 7 10)).1 ∧
      (Amount.resolve c (.wordRange 7 10)).1 ≤ 10) ∧
    Signed "-9223372036854775808".toList (-2 ^ 63) ∧ offset? "9223372036854775808" = none := by
  intro text
  obtain ⟨hamounts, hcounts, hoffsets, hbounds⟩ := parameters_follow_grammar
  have hread : Amount.ofText? text = some (.wordRange 7 10) := by decide
  have hcount : Amount.ofCount? text = none := by decide
  have hleast : offset? "-9223372036854775808" = some (-2 ^ 63) := by decide
  refine ⟨hread, (hamounts _ _).1 hread, ?_, fun c => hbounds text _ c hread,
    ((hoffsets _ _).1 hleast).1, by decide⟩
  intro amount hwritten
  rw [(hcounts _ _).2 hwritten] at hcount
  cases hcount

end ProseScript
