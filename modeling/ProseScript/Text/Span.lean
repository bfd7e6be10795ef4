/-!
Sets of characters given by ascending spans of code points.
-/

namespace ProseScript.Text

/-- A span holds every code point from its first to its last. -/
abbrev Span := Nat × Nat

/-- Membership in ascending spans; the search ends at the first span beyond the code point. -/
def Span.anyHolds : List Span → Nat → Bool
  | [], _ => false
  | (first, last) :: rest, n => first ≤ n && (n ≤ last || anyHolds rest n)

/-- Whatever the search finds lies in one of the spans. -/
theorem Span.mem_of_anyHolds {spans : List Span} {n : Nat} (h : anyHolds spans n = true) :
    ∃ s ∈ spans, s.1 ≤ n ∧ n ≤ s.2 := by
  induction spans with
  | nil => simp [anyHolds] at h
  | cons s rest ih =>
    obtain ⟨first, last⟩ := s
    simp only [anyHolds, Bool.and_eq_true, Bool.or_eq_true, decide_eq_true_eq] at h
    rcases h.2 with hl | hr
    · exact ⟨(first, last), by simp, h.1, hl⟩
    · obtain ⟨s, hs, hn⟩ := ih hr
      exact ⟨s, by simp [hs], hn⟩

end ProseScript.Text
