import Mathlib.Data.List.TakeDrop
import Mathlib.Data.List.TakeWhile
import ProseScript.Text.Case
import ProseScript.Text.Split

/-!
Names in lower case. Main statements: a text in lower case is its own lower case, and a dotted name
is known by its two sides.
-/

namespace ProseScript.Text

/-- A set of numbers as the bits of one, so that large sets are compared in one step. -/
def bitsOf (ns : List Nat) : Nat := ns.foldr (fun n bits => 1 <<< n ||| bits) 0

theorem testBit_bitsOf (ns : List Nat) (n : Nat) : (bitsOf ns).testBit n = decide (n ∈ ns) := by
  induction ns with
  | nil => simp [bitsOf]
  | cons k rest ih =>
    have hbit : (1 <<< k).testBit n = decide (n = k) := by
      rw [Nat.one_shiftLeft, Nat.testBit_two_pow]
      simp [eq_comm]
    change (1 <<< k ||| bitsOf rest).testBit n = _
    rw [Nat.testBit_or, hbit, ih, ← Bool.decide_or]
    simp

theorem not_mem_of_bitsOf {ms ns : List Nat} (h : bitsOf ms &&& bitsOf ns = 0) {n : Nat}
    (hn : n ∈ ns) : n ∉ ms := by
  intro hm
  have hbit := Nat.testBit_and (bitsOf ms) (bitsOf ns) n
  rw [h, testBit_bitsOf, testBit_bitsOf] at hbit
  simp [hm, hn] at hbit

/-- The code points that a run takes. -/
def CaseRun.codes (r : CaseRun) : List Nat :=
  List.range' r.first ((r.last - r.first) / r.step + 1) r.step

/-- The code points that a run gives. -/
def CaseRun.images (r : CaseRun) : List Nat :=
  List.range' r.image ((r.last - r.first) / r.step + 1) r.step

theorem CaseRun.mem_of_image? {runs : List CaseRun} {n m : Nat} (h : image? runs n = some m) :
    n ∈ runs.flatMap codes ∧ m ∈ runs.flatMap images := by
  induction runs with
  | nil => simp [image?] at h
  | cons r rest ih =>
    simp only [List.flatMap_cons, List.mem_append]
    simp only [image?] at h
    split at h
    · simp at h
    split at h
    · split at h
      · next hfirst hlast hstep =>
        have hm : r.image + (n - r.first) = m := Option.some.inj h
        have hplace : r.step * ((n - r.first) / r.step) = n - r.first :=
          Nat.mul_div_cancel' (Nat.dvd_of_mod_eq_zero hstep)
        have hlt : (n - r.first) / r.step < (r.last - r.first) / r.step + 1 := by
          have hle : n - r.first ≤ r.last - r.first := by omega
          have hdiv := Nat.div_le_div_right (c := r.step) hle
          omega
        refine ⟨.inl (List.mem_range'.2 ⟨_, hlt, ?_⟩), .inl (List.mem_range'.2 ⟨_, hlt, ?_⟩)⟩
        · omega
        · omega
      · simp at h
    · exact ⟨.inr (ih h).1, .inr (ih h).2⟩

/-- The code points that lower case changes. -/
def raised : List Nat := lowerRuns.flatMap CaseRun.codes ++ lowerExpansions.map Prod.fst

/-- The code points that lower case changes others to, and zero. -/
def lowered : List Nat :=
  0 :: (lowerRuns.flatMap CaseRun.images ++ lowerExpansions.flatMap Prod.snd)

theorem raised_disjoint_lowered : bitsOf raised &&& bitsOf lowered = 0 := by
  decide +kernel

/-- A character that is its own lower case, wherever it stands. -/
def Low (c : Char) : Prop := lowerChar c = [c] ∧ c ≠ 'Σ'

theorem low_of_not_mem_raised {c : Char} (h : c.toNat ∉ raised) : Low c := by
  simp only [raised, List.mem_append, not_or] at h
  have hrun : CaseRun.image? lowerRuns c.toNat = none := by
    rw [Option.eq_none_iff_forall_ne_some]
    intro m hm
    exact h.1 (CaseRun.mem_of_image? hm).1
  have hexp : lowerExpansions.lookup c.toNat = none := by
    rw [List.lookup_eq_none_iff]
    intro e he
    have hne : c.toNat ≠ e.1 := fun heq => h.2 (heq ▸ List.mem_map_of_mem he)
    simpa using hne
  constructor
  · simp [lowerChar, mapCase, hrun, hexp]
  · rintro rfl
    revert hrun
    decide +kernel

theorem toNat_ofNat_cases (n : Nat) : (Char.ofNat n).toNat = n ∨ (Char.ofNat n).toNat = 0 := by
  by_cases hvalid : n.isValidChar
  · left
    rw [Char.ofNat, dif_pos hvalid]
    rfl
  · right
    rw [Char.ofNat, dif_neg hvalid]
    rfl

theorem low_ofNat {n : Nat} (h : n ∈ lowered) : Low (Char.ofNat n) := by
  apply low_of_not_mem_raised
  apply not_mem_of_bitsOf raised_disjoint_lowered
  rcases toNat_ofNat_cases n with hsame | hzero
  · rwa [hsame]
  · simp [hzero, lowered]

/-- A mapping leaves a character alone, or gives characters of its tables. -/
theorem mapCase_cases (runs : List CaseRun) (expansions : List (Nat × List Nat)) (c : Char) :
    mapCase runs expansions c = [c] ∨ ∀ d ∈ mapCase runs expansions c,
      ∃ n ∈ runs.flatMap CaseRun.images ++ expansions.flatMap Prod.snd, d = Char.ofNat n := by
  unfold mapCase
  split
  · next n hrun =>
    refine .inr fun d hd => ⟨n, ?_, List.mem_singleton.1 hd⟩
    exact List.mem_append_left _ (CaseRun.mem_of_image? hrun).2
  · split
    · exact .inl rfl
    · split
      · next ns hexp =>
        refine .inr fun d hd => ?_
        obtain ⟨n, hn, hnd⟩ := List.mem_map.1 hd
        obtain ⟨front, back, hparts, -⟩ := List.lookup_eq_some_iff.1 hexp
        have hentry : (c.toNat, ns) ∈ expansions := by simp [hparts]
        have hmem : n ∈ expansions.flatMap Prod.snd := List.mem_flatMap.2 ⟨_, hentry, hn⟩
        exact ⟨n, List.mem_append_right _ hmem, hnd.symm⟩
      · exact .inl rfl

theorem lowerChar_cases (c : Char) :
    lowerChar c = [c] ∨ ∀ d ∈ lowerChar c, ∃ n ∈ lowered, d = Char.ofNat n := by
  refine (mapCase_cases lowerRuns lowerExpansions c).imp_right fun himage d hd => ?_
  obtain ⟨n, hn, hd⟩ := himage d hd
  exact ⟨n, List.mem_cons_of_mem 0 hn, hd⟩

theorem low_of_mem_lowerChar {c d : Char} (hc : c ≠ 'Σ') (h : d ∈ lowerChar c) : Low d := by
  rcases lowerChar_cases c with hself | himage
  · rw [hself] at h
    exact List.mem_singleton.1 h ▸ ⟨hself, hc⟩
  · obtain ⟨n, hn, rfl⟩ := himage d h
    exact low_ofNat hn

theorem low_of_mem_lowerAfter {before cs : List Char} {d : Char} (h : d ∈ lowerAfter before cs) :
    Low d := by
  have hsmall : Low 'σ' ∧ Low 'ς' := by
    constructor <;> exact low_of_not_mem_raised (by decide +kernel)
  induction cs generalizing before with
  | nil => simp [lowerAfter] at h
  | cons c rest ih =>
    rw [lowerAfter, List.mem_append] at h
    rcases h with h | h
    · split at h
      · split at h
        · exact List.mem_singleton.1 h ▸ hsmall.2
        · exact List.mem_singleton.1 h ▸ hsmall.1
      · next hc => exact low_of_mem_lowerChar hc h
    · exact ih h

theorem lowerAfter_of_low {cs : List Char} (h : ∀ c ∈ cs, Low c) (before : List Char) :
    lowerAfter before cs = cs := by
  induction cs generalizing before with
  | nil => rfl
  | cons c rest ih =>
    have hc := h c (by simp)
    rw [lowerAfter, if_neg hc.2, hc.1, ih fun d hd => h d (by simp [hd])]
    rfl

/-- A text in lower case is its own lower case. -/
theorem lower_lower (s : String) : lower (lower s) = lower s := by
  have hlow : ∀ c ∈ (lower s).toList, Low c := by
    intro c hc
    rw [toList_lower] at hc
    exact low_of_mem_lowerAfter hc
  rw [← String.toList_inj, toList_lower, lowerAfter_of_low hlow]

theorem dot_not_mem_lowered : '.'.toNat ∉ lowered := by
  decide +kernel

theorem eq_dot_of_mem_lowerChar {c : Char} (h : '.' ∈ lowerChar c) : c = '.' := by
  rcases lowerChar_cases c with hself | himage
  · rw [hself] at h
    exact (List.mem_singleton.1 h).symm
  · obtain ⟨n, hn, hdot⟩ := himage '.' h
    rcases toNat_ofNat_cases n with hsame | hzero
    · rw [← hdot] at hsame
      exact absurd (hsame ▸ hn) dot_not_mem_lowered
    · rw [← hdot] at hzero
      exact absurd hzero (by decide)

/-- Lower case brings no period. -/
theorem dot_mem_of_lowerAfter {before cs : List Char} (h : '.' ∈ lowerAfter before cs) :
    '.' ∈ cs := by
  induction cs generalizing before with
  | nil => simp [lowerAfter] at h
  | cons c rest ih =>
    rw [lowerAfter, List.mem_append] at h
    rcases h with h | h
    · split at h
      · split at h <;> simp at h
      · exact List.mem_cons.2 (.inl (eq_dot_of_mem_lowerChar h).symm)
    · exact List.mem_cons.2 (.inr (ih h))

/-- A dotted name has one period, between its two sides. -/
theorem splitDotted_eq_some_iff {s front back : String} :
    splitDotted s = some (front, back) ↔
      s.toList = front.toList ++ '.' :: back.toList ∧ '.' ∉ front.toList ∧ '.' ∉ back.toList := by
  constructor
  · intro h
    unfold splitDotted at h
    rw [List.span_eq_takeWhile_dropWhile] at h
    split at h
    · next cs rest hspan =>
      split at h
      · simp at h
      · next hrest =>
        obtain ⟨hfront, hback⟩ := Prod.mk.inj (Option.some.inj h)
        obtain ⟨hcs, hdrop⟩ := Prod.mk.inj hspan
        have hall := List.takeWhile_append_dropWhile (p := (· ≠ '.')) (l := s.toList)
        rw [hcs, hdrop] at hall
        rw [← hfront, ← hback, String.toList_ofList, String.toList_ofList]
        refine ⟨hall.symm, ?_, hrest⟩
        intro hdot
        rw [← hcs] at hdot
        simpa using List.mem_takeWhile_imp hdot
    · simp at h
  · rintro ⟨hs, hfront, hback⟩
    have hbefore : ∀ c ∈ front.toList, decide (c ≠ '.') = true := by
      intro c hc
      simpa using ne_of_mem_of_not_mem hc hfront
    unfold splitDotted
    rw [List.span_eq_takeWhile_dropWhile, hs, List.takeWhile_append_of_pos hbefore,
      List.dropWhile_append_of_pos hbefore]
    simp [hback]

theorem dot_mem_of_splitDotted {s front back : String} (h : splitDotted s = some (front, back)) :
    '.' ∈ s.toList := by
  rw [(splitDotted_eq_some_iff.1 h).1]
  simp

theorem splitDotted_inj {s t front back : String} (hs : splitDotted s = some (front, back))
    (ht : splitDotted t = some (front, back)) : s = t := by
  rw [splitDotted_eq_some_iff] at hs ht
  rw [← String.toList_inj, hs.1, ht.1]

theorem splitDotted_eq_none {s : String} (h : '.' ∉ s.toList) : splitDotted s = none := by
  rw [Option.eq_none_iff_forall_ne_some]
  rintro ⟨front, back⟩ hs
  rw [splitDotted_eq_some_iff] at hs
  exact h (by simp [hs.1])

theorem splitDotted_lower_eq_none {s : String} (h : '.' ∉ s.toList) :
    splitDotted (lower s) = none := by
  apply splitDotted_eq_none
  rw [toList_lower]
  exact fun hdot => h (dot_mem_of_lowerAfter hdot)

/-- The front of a dotted name is a plain name, and another one. -/
theorem splitDotted_front {s front back : String} (h : splitDotted s = some (front, back)) :
    splitDotted front = none ∧ s ≠ front := by
  obtain ⟨hs, hfront, -⟩ := splitDotted_eq_some_iff.1 h
  refine ⟨splitDotted_eq_none hfront, ?_⟩
  rintro rfl
  exact hfront (by rw [hs]; simp)

end ProseScript.Text
