import ProseScript.Proofs.Run.Approx
import ProseScript.Run

/-!
Runs under different limits. Main statement: a run that ends under one limit ends alike under every
higher one, also from a state in which another line is current.
-/

namespace ProseScript

namespace State

/-- The second state differs from the first at most in its current line. -/
def SameButLine (s t : State) : Prop := t = { s with current := t.current }

namespace SameButLine

variable {s t u : State}

theorem refl (s : State) : s.SameButLine s := rfl

theorem begun (s : State) (l : Line) : s.SameButLine { s with current := some l } := rfl

theorem symm (h : s.SameButLine t) : t.SameButLine s := by
  unfold SameButLine at *
  rw [h]

theorem trans (hst : s.SameButLine t) (htu : t.SameButLine u) : s.SameButLine u := by
  unfold SameButLine at *
  rw [htu, hst]

theorem wordCount_eq (h : s.SameButLine t) : s.wordCount = t.wordCount := by
  rw [h]

end SameButLine

end State

namespace Run

open Outcome (Approx)
open State (SameButLine)

/-- A node records its own line before it does anything else. -/
theorem node_eq_of_sameButLine (body : List Node → State → Outcome State) (limit : Nat) (n : Node)
    {s t : State} (h : s.SameButLine t) : node body limit n t = node body limit n s := by
  rw [h]
  cases n <;> rfl

variable {limit limit' : Nat} (hle : limit ≤ limit')
include hle

theorem approx_write (l : Line) (s : State) :
    Approx SameButLine (write limit l s) (write limit' l s) := by
  simp only [write]
  split
  · exact .inr (.failed _ _)
  split
  · exact .inr (.crashed _ _)
  · next p chance _ _ _ _ _ =>
    have hstep (a b : Nat × State) (hab : a = b) :
        Approx Eq (writeOne l p a) (writeOne l p b) := hab ▸ .refl Eq.refl (writeOne l p a)
    refine (Approx.repeated hstep p.counting (fun a b hab => hab ▸ rfl) hle _ _ rfl).bind ?_
    intro a b hab
    exact .inr (.finished (hab ▸ .refl a.2))

/-- Passes that keep a relation of states with equal word counts make loops that keep it. -/
theorem approx_loop {R : State → State → Prop} (hcount : ∀ s t, R s t → s.wordCount = t.wordCount)
    {pass pass' : State → Outcome State} (hpass : ∀ s t, R s t → Approx R (pass s) (pass' t))
    (opener : Line) {s : State} (hs : ∀ chance, R { s with chance } { s with chance }) :
    Approx R (loop pass limit opener s) (loop pass' limit' opener s) := by
  simp only [loop]
  split
  · exact .inr (.failed _ _)
  split
  · exact .inr (.crashed _ _)
  · next n counting chance _ _ _ _ _ =>
    exact Approx.repeated hpass counting hcount hle _ _ (hs chance)

section Body

variable {body body' : List Node → State → Outcome State}
  (hbody : ∀ ns s t, s.SameButLine t → Approx SameButLine (body ns s) (body' ns t))
include hbody

theorem approx_line (l : Line) (s : State) :
    Approx SameButLine (line body limit l s) (line body' limit' l s) := by
  unfold line
  split
  · exact .inr (.finished (.refl s))
  split
  · exact .inr (.failed _ _)
  · exact approx_write hle l s
  · split
    · next ns _ => exact hbody ns s s (.refl s)
    · exact .inr (.failed _ _)
  · exact .refl SameButLine.refl _

theorem approx_node (n : Node) {s t : State} (h : s.SameButLine t) :
    Approx SameButLine (node body limit n s) (node body' limit' n t) := by
  rw [node_eq_of_sameButLine body' limit' n h]
  cases n with
  | line l => exact approx_line hle hbody l { s with current := some l }
  | block kind opener ns closer =>
    cases kind with
    | gen => exact .refl SameButLine.refl _
    | desc => exact .refl SameButLine.refl _
    | loop => exact approx_loop hle (fun _ _ h => h.wordCount_eq) (hbody ns) opener fun _ => .refl _

end Body

omit hle in
theorem approx_inOrder {step step' : Node → State → Outcome State}
    (hstep : ∀ n s t, s.SameButLine t → Approx SameButLine (step n s) (step' n t))
    (ns : List Node) {s t : State} (h : s.SameButLine t) :
    Approx SameButLine (inOrder step ns s) (inOrder step' ns t) := by
  induction ns generalizing s t with
  | nil => exact .inr (.finished h)
  | cons n rest ih =>
    rw [inOrder_cons, inOrder_cons]
    exact (hstep n s t h).bind fun s t h => ih h

/-- A higher limit changes no run that ended, and neither does the line that was current. -/
theorem approx_nodes (ns : List Node) {s t : State} (h : s.SameButLine t) :
    Approx SameButLine (nodes limit ns s) (nodes limit' ns t) := by
  induction limit generalizing limit' ns s t with
  | zero => exact .inl rfl
  | succ limit ih =>
    obtain ⟨limit', rfl⟩ : ∃ k, limit' = k + 1 := ⟨limit' - 1, by omega⟩
    have hle : limit ≤ limit' := by omega
    have hbody (ns : List Node) (s t : State) (h : s.SameButLine t) :
        Approx SameButLine (nodes limit ns s) (nodes limit' ns t) := ih hle ns h
    exact approx_inOrder (fun n s t h => approx_node hle hbody n h) ns h

end Run

end ProseScript
