import Mathlib.Data.List.Infix
import ProseScript.Text.Split

/-!
Texts divided around a mark between spaces. Main statement: the pieces are those of the division at
the leftmost separators that do not overlap, and there is one such division.
-/

namespace ProseScript.Text

/-- The division of a text at its leftmost separators that do not overlap. -/
inductive Separates (separator : List Char) : List Char → List (List Char) → Prop
  | last {cs : List Char} (hnone : ∀ k, ¬ separator <+: cs.drop k) : Separates separator cs [cs]
  | next {piece rest : List Char} {pieces : List (List Char)}
      (hfirst : ∀ k < piece.length, ¬ separator <+: (piece ++ (separator ++ rest)).drop k)
      (hrest : Separates separator rest pieces) :
      Separates separator (piece ++ (separator ++ rest)) (piece :: pieces)

/-- The separator that a mark makes with a space on either side. -/
def spaced (mark : Char) : List Char := [' ', mark, ' ']

section Around

variable {mark c : Char} {cs : List Char}

theorem splitAroundChars_spaced (mark : Char) (rest : List Char) :
    splitAroundChars mark (spaced mark ++ rest) = [] :: splitAroundChars mark rest := by
  simp [spaced, splitAroundChars]

/-- A character that begins no separator goes to the front of the first piece. -/
theorem splitAroundChars_cons (h : ¬ spaced mark <+: c :: cs) :
    splitAroundChars mark (c :: cs) = extendFirst c (splitAroundChars mark cs) := by
  generalize htext : c :: cs = text at h
  fun_cases splitAroundChars mark text with
  | case1 => cases htext
  | case2 rest => exact absurd ⟨rest, rfl⟩ h
  | case3 m rest =>
    obtain ⟨rfl, rfl⟩ := List.cons.inj htext
    rfl
  | case4 d rest =>
    obtain ⟨rfl, rfl⟩ := List.cons.inj htext
    rfl

/-- Text in which no separator begins belongs to the first piece. -/
theorem splitAroundChars_append {piece rest : List Char}
    (h : ∀ k < piece.length, ¬ spaced mark <+: (piece ++ (spaced mark ++ rest)).drop k) :
    splitAroundChars mark (piece ++ (spaced mark ++ rest)) =
      piece :: splitAroundChars mark rest := by
  induction piece with
  | nil => exact splitAroundChars_spaced mark rest
  | cons c piece ih =>
    have hrest : ∀ k < piece.length, ¬ spaced mark <+: (piece ++ (spaced mark ++ rest)).drop k := by
      intro k hk
      exact h (k + 1) (by simpa using hk)
    have hc : ¬ spaced mark <+: c :: (piece ++ (spaced mark ++ rest)) := h 0 (by simp)
    rw [List.cons_append, splitAroundChars_cons hc, ih hrest]
    rfl

theorem splitAroundChars_of_none (h : ∀ k, ¬ spaced mark <+: cs.drop k) :
    splitAroundChars mark cs = [cs] := by
  induction cs with
  | nil => rfl
  | cons c cs ih =>
    rw [splitAroundChars_cons (h 0), ih fun k => h (k + 1)]
    rfl

namespace Separates

variable {pieces : List (List Char)}

theorem cons (h : Separates (spaced mark) cs pieces) (hc : ¬ spaced mark <+: c :: cs) :
    Separates (spaced mark) (c :: cs) (extendFirst c pieces) := by
  cases h with
  | last hnone =>
    refine .last ?_
    intro k
    cases k with
    | zero => exact hc
    | succ k => exact hnone k
  | @next piece rest _ hfirst hrest =>
    have hearlier : ∀ k < (c :: piece).length,
        ¬ spaced mark <+: (c :: piece ++ (spaced mark ++ rest)).drop k := by
      intro k hk
      cases k with
      | zero => exact hc
      | succ k => exact hfirst k (by simpa using hk)
    exact .next hearlier hrest

theorem splitAroundChars_eq (h : Separates (spaced mark) cs pieces) :
    splitAroundChars mark cs = pieces := by
  induction h with
  | last hnone => exact splitAroundChars_of_none hnone
  | next hfirst _ ih => rw [splitAroundChars_append hfirst, ih]

end Separates

theorem separates_splitAroundChars (mark : Char) (cs : List Char) :
    Separates (spaced mark) cs (splitAroundChars mark cs) := by
  fun_induction splitAroundChars mark cs with
  | case1 => exact .last (by simp [spaced])
  | case2 rest ih =>
    have hfront : Separates (spaced mark) ([] ++ (spaced mark ++ rest))
        ([] :: splitAroundChars mark rest) := .next (by simp) ih
    exact hfront
  | case3 m rest hm ih =>
    refine ih.cons ?_
    rintro ⟨after, h⟩
    simp_all [spaced]
  | case4 c rest hplain ih =>
    refine ih.cons ?_
    rintro ⟨after, h⟩
    obtain ⟨hc, hrest⟩ := List.cons.inj h
    exact hplain mark after hc.symm hrest.symm

/-- The pieces around a mark are the only division of a text at its separators. -/
theorem splitAroundChars_eq_iff {pieces : List (List Char)} :
    splitAroundChars mark cs = pieces ↔ Separates (spaced mark) cs pieces := by
  constructor
  · rintro rfl
    exact separates_splitAroundChars mark cs
  · exact Separates.splitAroundChars_eq

end Around

end ProseScript.Text
