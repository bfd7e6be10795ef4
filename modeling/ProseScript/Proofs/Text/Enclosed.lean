import Mathlib.Data.List.DropRight
import Mathlib.Data.List.Forall2
import ProseScript.Text.Blank
import ProseScript.Text.Split

/-!
Texts between other texts. Main statements: trimming goes up to a text that has no blank at its ends,
and a part that shares no character with its ends stands before it, inside it or after it.
-/

namespace ProseScript.Text

theorem not_blank_of_dropWhile (cs : List Char) {c : Char}
    (h : c ∈ (cs.dropWhile isBlank).head?) : isBlank c = false := by
  have hne : cs.dropWhile isBlank ≠ [] := List.ne_nil_of_mem (List.mem_of_mem_head? h)
  have hhead := List.head_dropWhile_not isBlank hne
  rwa [List.head_of_mem_head? h] at hhead

/-- The second text is what the first holds between the blanks at its ends. -/
structure Trims (cs trimmed : List Char) : Prop where
  between : ∃ front back, cs = front ++ trimmed ++ back ∧ (∀ c ∈ front, isBlank c = true) ∧
    ∀ c ∈ back, isBlank c = true
  first : ∀ c ∈ trimmed.head?, isBlank c = false
  last : ∀ c ∈ trimmed.getLast?, isBlank c = false

theorem trims_trimChars (cs : List Char) : Trims cs (trimChars cs) := by
  have hfront := List.takeWhile_append_dropWhile (p := isBlank) (l := cs)
  have hback := @List.rdropWhile_append_rtakeWhile _ isBlank (cs.dropWhile isBlank)
  have htrim : trimChars cs = (cs.dropWhile isBlank).rdropWhile isBlank := rfl
  constructor
  · refine ⟨cs.takeWhile isBlank, (cs.dropWhile isBlank).rtakeWhile isBlank, ?_, ?_, ?_⟩
    · rw [htrim, List.append_assoc, hback, hfront]
    · intro c hc
      exact List.mem_takeWhile_imp hc
    · intro c hc
      exact List.mem_rtakeWhile_imp hc
  · intro c hc
    -- What is left begins as the text does after the blanks before it.
    have hprefix := List.rdropWhile_prefix isBlank (cs.dropWhile isBlank)
    obtain ⟨rest, hrest⟩ := htrim ▸ hprefix
    apply not_blank_of_dropWhile cs
    rw [← hrest, List.head?_append_of_ne_nil _ (List.ne_nil_of_mem (List.mem_of_mem_head? hc))]
    exact hc
  · intro c hc
    apply not_blank_of_dropWhile (cs.dropWhile isBlank).reverse
    rwa [trimChars, List.getLast?_reverse] at hc

/-- A text with no blank at either end. -/
structure Firm (cs : List Char) : Prop where
  ne_nil : cs ≠ []
  first : ∀ c ∈ cs.head?, isBlank c = false
  last : ∀ c ∈ cs.getLast?, isBlank c = false

namespace Firm

variable {cs : List Char}

theorem exists_cons (h : Firm cs) : ∃ c rest, cs = c :: rest ∧ isBlank c = false := by
  cases hcs : cs with
  | nil => exact absurd hcs h.ne_nil
  | cons c rest => exact ⟨c, rest, rfl, h.first c (by simp [hcs])⟩

theorem exists_concat (h : Firm cs) : ∃ front c, cs = front ++ [c] ∧ isBlank c = false := by
  obtain hnil | ⟨front, c, hcs⟩ := List.eq_nil_or_concat' cs
  · exact absurd hnil h.ne_nil
  · exact ⟨front, c, hcs, h.last c (by simp [hcs])⟩

/-- A text that trimming leaves as it is. -/
theorem of_trimChars (hne : cs ≠ []) (htrim : trimChars cs = cs) : Firm cs := by
  have htrims := trims_trimChars cs
  rw [htrim] at htrims
  exact ⟨hne, htrims.first, htrims.last⟩

end Firm

/-- The blanks before a text end where ink begins. -/
theorem dropWhile_append_ink (front : List Char) {cs : List Char} {c : Char}
    (hc : isBlank c = false) :
    (front ++ c :: cs).dropWhile isBlank = front.dropWhile isBlank ++ c :: cs := by
  have hstay : (c :: cs).dropWhile isBlank = c :: cs := by simp [hc]
  rw [List.dropWhile_append, hstay]
  split
  · next hnone => simp [List.isEmpty_iff.1 hnone]
  · rfl

theorem trimChars_append (front back : List Char) {cs : List Char} (h : Firm cs) :
    trimChars (front ++ cs ++ back) =
      front.dropWhile isBlank ++ cs ++ back.rdropWhile isBlank := by
  have hfront : (front ++ cs ++ back).dropWhile isBlank =
      front.dropWhile isBlank ++ cs ++ back := by
    obtain ⟨c, rest, rfl, hc⟩ := h.exists_cons
    simp only [List.append_assoc, List.cons_append]
    exact dropWhile_append_ink front hc
  have hback : (front.dropWhile isBlank ++ cs ++ back).reverse.dropWhile isBlank =
      back.reverse.dropWhile isBlank ++ (front.dropWhile isBlank ++ cs).reverse := by
    obtain ⟨inner, c, rfl, hc⟩ := h.exists_concat
    simp only [List.reverse_append, List.reverse_singleton, List.singleton_append]
    exact dropWhile_append_ink back.reverse hc
  rw [trimChars, hfront, hback, List.reverse_append, List.reverse_reverse, List.rdropWhile]

/-- Trimming a text gives what stands between the blanks at its ends. -/
theorem trimChars_eq_iff {cs trimmed : List Char} : trimChars cs = trimmed ↔ Trims cs trimmed := by
  constructor
  · rintro rfl
    exact trims_trimChars cs
  · intro h
    obtain ⟨front, back, rfl, hfront, hback⟩ := h.between
    have hnoFront : front.dropWhile isBlank = [] := List.dropWhile_eq_nil_iff.2 hfront
    have hnoBack : back.rdropWhile isBlank = [] := List.rdropWhile_eq_nil_iff.2 hback
    by_cases hne : trimmed = []
    · subst hne
      have hblank : ∀ c ∈ front ++ [] ++ back, isBlank c = true := by
        simpa [or_imp, forall_and] using ⟨hfront, hback⟩
      rw [trimChars, List.dropWhile_eq_nil_iff.2 hblank]
      rfl
    · rw [trimChars_append front back ⟨hne, h.first, h.last⟩, hnoFront, hnoBack]
      simp

theorem map_trimChars_eq_iff {pieces trimmed : List (List Char)} :
    pieces.map trimChars = trimmed ↔ List.Forall₂ Trims pieces trimmed := by
  constructor
  · rintro rfl
    exact List.forall₂_map_right_iff.2 (List.forall₂_same.2 fun piece _ => trims_trimChars piece)
  · intro h
    have heq := h.imp fun _ _ htrims => trimChars_eq_iff.2 htrims
    exact List.forall₂_eq_eq_eq ▸ List.forall₂_map_left_iff.2 heq

section Holds

variable {part : List Char}

theorem isPrefixOf_append_cons {c : Char} (hc : c ∉ part) (xs ys : List Char) :
    part.isPrefixOf (xs ++ c :: ys) = part.isPrefixOf xs := by
  induction part generalizing xs with
  | nil => simp
  | cons p part ih =>
    cases xs with
    | nil =>
      have hne : p ≠ c := fun h => hc (by simp [h])
      simp [List.isPrefixOf, hne]
    | cons x xs =>
      have hrest := ih (fun h => hc (List.mem_cons_of_mem p h)) xs
      simp [List.isPrefixOf, hrest]

theorem holdsChars_nil (hne : part ≠ []) : holdsChars part [] = false := by
  simpa [holdsChars] using hne

/-- No part goes over a character that it does not have. -/
theorem holdsChars_append_cons {c : Char} (hne : part ≠ []) (hc : c ∉ part) (xs ys : List Char) :
    holdsChars part (xs ++ c :: ys) = (holdsChars part xs || holdsChars part ys) := by
  induction xs with
  | nil =>
    have hfirst := isPrefixOf_append_cons hc [] ys
    have hnone : part.isPrefixOf ([] : List Char) = false := by
      cases part with
      | nil => exact absurd rfl hne
      | cons p part => rfl
    rw [List.nil_append] at hfirst
    rw [List.nil_append, holdsChars_nil hne, holdsChars, hfirst, hnone]
  | cons x xs ih =>
    have hfirst := isPrefixOf_append_cons hc (x :: xs) ys
    rw [List.cons_append] at hfirst
    simp [holdsChars, hfirst, ih, Bool.or_assoc]

/-- A part that has neither end of a text stands before the text, inside it or after it. -/
theorem holdsChars_append {cs : List Char} (hne : part ≠ []) (hcs : cs ≠ [])
    (hfirst : ∀ c ∈ cs.head?, c ∉ part) (hlast : ∀ c ∈ cs.getLast?, c ∉ part)
    (front back : List Char) :
    holdsChars part (front ++ cs ++ back) =
      (holdsChars part front || holdsChars part cs || holdsChars part back) := by
  have hleft (xs : List Char) :
      holdsChars part (xs ++ cs) = (holdsChars part xs || holdsChars part cs) := by
    obtain ⟨c, rest, rfl⟩ := List.exists_cons_of_ne_nil hcs
    have hc := hfirst c rfl
    have hself := holdsChars_append_cons hne hc [] rest
    rw [List.nil_append] at hself
    rw [holdsChars_append_cons hne hc, hself, holdsChars_nil hne, Bool.false_or]
  have hright (xs : List Char) :
      holdsChars part (xs ++ cs ++ back) = (holdsChars part (xs ++ cs) || holdsChars part back) := by
    obtain hnil | ⟨inner, c, rfl⟩ := List.eq_nil_or_concat' cs
    · exact absurd hnil hcs
    · have hc := hlast c (by simp)
      have hwhole := holdsChars_append_cons hne hc (xs ++ inner) back
      have hself := holdsChars_append_cons hne hc (xs ++ inner) []
      simp only [List.append_assoc, List.singleton_append] at hwhole hself ⊢
      rw [hwhole, hself, holdsChars_nil hne, Bool.or_false]
  rw [hright, hleft]

theorem mem_of_holdsChars {cs : List Char} (h : holdsChars part cs = true) {c : Char}
    (hc : c ∈ part) : c ∈ cs := by
  induction cs with
  | nil =>
    have hnil : part = [] := by simpa [holdsChars] using h
    exact absurd hc (by simp [hnil])
  | cons d cs ih =>
    rw [holdsChars, Bool.or_eq_true] at h
    rcases h with hfirst | hrest
    · exact (List.isPrefixOf_iff_prefix.1 hfirst).subset hc
    · exact List.mem_cons_of_mem d (ih hrest)

end Holds

end ProseScript.Text
