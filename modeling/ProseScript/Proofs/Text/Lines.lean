import Mathlib.Data.List.Basic
import ProseScript.Text.Blank

/-!
Texts divided into lines. Main statement: the lines are what stands before the line feeds, each
without a carriage return at its end, and what stands behind the last one.
-/

namespace ProseScript.Text

/-- The lines of a text. A line ends with a line feed, or with a carriage return and a line feed.
The last one may go without, and then a carriage return is part of it. -/
inductive IsLines : List Char → List (List Char) → Prop
  | none : IsLines [] []
  | last {line : List Char} (hne : line ≠ []) (hfeed : '\n' ∉ line) : IsLines line [line]
  | feed {line rest : List Char} {lines : List (List Char)} (hfeed : '\n' ∉ line)
      (hreturn : line.getLast? ≠ some '\r') (hrest : IsLines rest lines) :
      IsLines (line ++ '\n' :: rest) (line :: lines)
  | returnFeed {line rest : List Char} {lines : List (List Char)} (hfeed : '\n' ∉ line)
      (hrest : IsLines rest lines) : IsLines (line ++ '\r' :: '\n' :: rest) (line :: lines)

theorem linesFrom_of_no_feed {line : List Char} (h : '\n' ∉ line) (pending : List Char)
    (rest : List Char) :
    linesFrom pending (line ++ rest) = linesFrom (line.reverse ++ pending) rest := by
  induction line generalizing pending with
  | nil => rfl
  | cons c line ih =>
    have hc : c ≠ '\n' := fun hc => h (hc ▸ List.mem_cons_self)
    have hline : '\n' ∉ line := fun hmem => h (List.mem_cons_of_mem _ hmem)
    simp [linesFrom, hc, ih hline]

theorem linesFrom_last {line : List Char} (hne : line ≠ []) (h : '\n' ∉ line) :
    linesFrom [] line = [line] := by
  have hpending := linesFrom_of_no_feed h [] []
  rw [List.append_nil, List.append_nil] at hpending
  simp [hpending, linesFrom, hne]

theorem linesFrom_feed {line : List Char} (h : '\n' ∉ line) (rest : List Char) :
    linesFrom [] (line ++ '\n' :: rest) = endedLine line.reverse :: linesFrom [] rest := by
  rw [linesFrom_of_no_feed h, List.append_nil]
  simp [linesFrom]

theorem endedLine_return (line : List Char) : endedLine (line ++ ['\r']).reverse = line := by
  simp [endedLine]

theorem endedLine_of_getLast?_ne {line : List Char} (h : line.getLast? ≠ some '\r') :
    endedLine line.reverse = line := by
  rw [List.getLast?_eq_head?_reverse] at h
  unfold endedLine
  split
  · next hreverse => simp [hreverse] at h
  · exact List.reverse_reverse line

theorem isLines_linesFrom (cs : List Char) : IsLines cs (linesFrom [] cs) := by
  induction hn : cs.length using Nat.strongRecOn generalizing cs with
  | _ n ih =>
    subst hn
    by_cases hfeed : '\n' ∈ cs
    · obtain ⟨line, rest, rfl, hline⟩ := List.eq_append_cons_of_mem hfeed
      have hrest := ih rest.length (by simp; omega) rest rfl
      rw [linesFrom_feed hline]
      by_cases hreturn : line.getLast? = some '\r'
      · obtain ⟨line, rfl⟩ := List.getLast?_eq_some_iff.1 hreturn
        rw [endedLine_return, List.append_assoc]
        exact .returnFeed (fun h => hline (List.mem_append_left _ h)) hrest
      · rw [endedLine_of_getLast?_ne hreturn]
        exact .feed hline hreturn hrest
    · by_cases hne : cs = []
      · subst hne
        exact .none
      · rw [linesFrom_last hne hfeed]
        exact .last hne hfeed

/-- A text has one division into lines. -/
theorem linesFrom_eq_iff {cs : List Char} {lines : List (List Char)} :
    linesFrom [] cs = lines ↔ IsLines cs lines := by
  constructor
  · rintro rfl
    exact isLines_linesFrom cs
  · intro h
    induction h with
    | none => rfl
    | last hne hfeed => exact linesFrom_last hne hfeed
    | feed hfeed hreturn _ ih => rw [linesFrom_feed hfeed, endedLine_of_getLast?_ne hreturn, ih]
    | @returnFeed line rest lines hfeed _ ih =>
      have hwhole : '\n' ∉ line ++ ['\r'] := by simpa using hfeed
      have hfront := linesFrom_feed hwhole rest
      rw [endedLine_return, ih] at hfront
      simpa using hfront

end ProseScript.Text
