import Mathlib.Data.List.Forall2
import ProseScript.Expression
import ProseScript.Proofs.Text.Enclosed
import ProseScript.Proofs.Text.Split

/-!
The operands of a right-hand side. Main statement: its terms are the pieces that plus and minus signs
between spaces leave of it, each with its sign and without the blanks at its ends.
-/

namespace ProseScript.Expression

open Text (Separates Trims)

/-- A part between plus signs reads as the pieces between its minus signs, without the blanks at
their ends: the first one is added, the others are taken away. -/
inductive PartReads : List Char → List (Sign × String) → Prop
  | intro {part first term : List Char} {rest terms : List (List Char)}
      (h : Separates [' ', '-', ' '] part (first :: rest)) (hfirst : Trims first term)
      (hrest : List.Forall₂ Trims rest terms) :
      PartReads part ((.plus, String.ofList term) ::
        terms.map fun term => (.minus, String.ofList term))

/-- A right-hand side reads as what the parts between its plus signs read as, one after the other. -/
inductive Reads (rhs : String) : List (Sign × String) → Prop
  | intro {parts : List (List Char)} {ts : List (List (Sign × String))}
      (hparts : Separates [' ', '+', ' '] rhs.toList parts)
      (hts : List.Forall₂ PartReads parts ts) : Reads rhs ts.flatten

/-- The terms of one part between plus signs. -/
def partTerms (part : String) : List (Sign × String) :=
  match Text.splitAround '-' part with
  | [] => []
  | first :: rest => (.plus, Text.trim first) :: rest.map fun t => (.minus, Text.trim t)

theorem PartReads.partTerms_eq {part : List Char} {ts : List (Sign × String)}
    (h : PartReads part ts) : partTerms (String.ofList part) = ts := by
  obtain ⟨h, hfirst, hrest⟩ := h
  obtain rfl := Text.trimChars_eq_iff.2 hfirst
  obtain rfl := Text.map_trimChars_eq_iff.2 hrest
  rw [partTerms, Text.splitAround, String.toList_ofList, Text.splitAroundChars_eq_iff.2 h]
  simp [Text.trim_ofList]

theorem partReads_partTerms (part : List Char) :
    PartReads part (partTerms (String.ofList part)) := by
  have h := Text.separates_splitAroundChars '-' part
  cases hpieces : Text.splitAroundChars '-' part with
  | nil =>
    rw [hpieces] at h
    cases h
  | cons first rest =>
    rw [hpieces] at h
    have hreads := PartReads.intro h (Text.trims_trimChars first) (Text.map_trimChars_eq_iff.1 rfl)
    rw [hreads.partTerms_eq]
    exact hreads

/-- The terms of a right-hand side are what it reads as. -/
theorem terms_eq_iff {rhs : String} {ts : List (Sign × String)} : terms rhs = ts ↔ Reads rhs ts := by
  have hterms : terms rhs =
      ((Text.splitAroundChars '+' rhs.toList).map fun part => partTerms (String.ofList part)).flatten := by
    rw [terms, Text.splitAround, ← List.flatMap_def, List.flatMap_map]
    rfl
  rw [hterms]
  constructor
  · rintro rfl
    refine .intro (Text.separates_splitAroundChars '+' rhs.toList) ?_
    exact List.forall₂_map_right_iff.2 (List.forall₂_same.2 fun part _ => partReads_partTerms part)
  · intro ⟨hparts, hts⟩
    rw [Text.splitAroundChars_eq_iff.2 hparts]
    congr 1
    have hmapped := hts.imp fun _ _ h => h.partTerms_eq
    exact List.forall₂_eq_eq_eq ▸ List.forall₂_map_left_iff.2 hmapped

end ProseScript.Expression
