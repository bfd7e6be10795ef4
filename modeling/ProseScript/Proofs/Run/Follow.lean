import ProseScript.Proofs.Run.Invariant
import ProseScript.Proofs.Run.Limit

/-!
Sequences that run alike. Main statement: when one sequence follows another, both from states with a
property that the runs keep, it follows it in front of, behind and inside of other nodes too, and
runs of both that have ended have ended alike.
-/

namespace ProseScript.Run

open Outcome (Approx Alike)
open State (SameButLine)

theorem inOrder_append (step : Node → State → Outcome State) (xs ys : List Node) (s : State) :
    inOrder step (xs ++ ys) s = (inOrder step xs s).bind (inOrder step ys) := by
  induction xs generalizing s with
  | nil => rfl
  | cons n rest ih =>
    rw [List.cons_append, inOrder_cons, inOrder_cons]
    cases step n s with
    | finished t => exact ih t
    | failed fault shown => rfl
    | crashed crash shown => rfl
    | unfinished => rfl

theorem inOrder_singleton (step : Node → State → Outcome State) (n : Node) (s : State) :
    inOrder step [n] s = step n s := by
  rw [inOrder_cons]
  cases step n s <;> rfl

theorem nodes_append (limit : Nat) (xs ys : List Node) (s : State) :
    nodes limit (xs ++ ys) s = (nodes limit xs s).bind (nodes limit ys) := by
  cases limit with
  | zero => rfl
  | succ limit => exact inOrder_append _ xs ys s

theorem nodes_singleton (limit : Nat) (n : Node) (s : State) :
    nodes (limit + 1) [n] s = node (nodes limit) limit n s :=
  inOrder_singleton _ n s

/-- Whatever the first sequence ends in, the second ends in under the next limit. They begin in
states with the property `pre` and end in states with the property `post`. -/
def Follows (pre post : State → Prop) (p q : List Node) : Prop :=
  ∀ limit s t, s.SameButLine t → pre s →
    Approx (fun s t => s.SameButLine t ∧ post s) (nodes limit p s) (nodes (limit + 1) q t)

abbrev AlwaysFollows (p q : List Node) : Prop := Follows (fun _ => True) (fun _ => True) p q

namespace Follows

variable {pre mid post I : State → Prop} {p q : List Node}

theorem always (h : ∀ limit s t, s.SameButLine t →
    Approx SameButLine (nodes limit p s) (nodes (limit + 1) q t)) : AlwaysFollows p q :=
  fun limit s t hst _ => (h limit s t hst).and_left fun _ _ => trivial

theorem refl (h : ∀ limit s t, nodes limit p s = .finished t → pre s → post t) :
    Follows pre post p p :=
  fun limit s _ hst hs =>
    (approx_nodes (Nat.le_succ limit) p hst).and_left fun t ht => h limit s t ht hs

theorem append {p' q' : List Node} (h : Follows pre mid p q) (h' : Follows mid post p' q') :
    Follows pre post (p ++ p') (q ++ q') := by
  intro limit s t hst hs
  rw [nodes_append, nodes_append]
  exact (h limit s t hst hs).bind fun s t hst => h' limit s t hst.1 hst.2

section Invariant

variable {allowed : Node → Prop} (hI : Invariant allowed I) (h : Follows I I p q)
include hI h

theorem around {before after : List Node} (hbefore : ∀ n ∈ before, allowed n)
    (hafter : ∀ n ∈ after, allowed n) : Follows I I (before ++ p ++ after) (before ++ q ++ after) :=
  have hfront : Follows I I before before := refl fun _ _ _ => hI.nodes hbefore
  have hback : Follows I I after after := refl fun _ _ _ => hI.nodes hafter
  (hfront.append h).append hback

theorem loop (opener closer : Line) :
    Follows I I [.block .loop opener p closer] [.block .loop opener q closer] := by
  intro limit s t hst hs
  cases limit with
  | zero => exact .inl rfl
  | succ limit =>
    rw [nodes_singleton, nodes_singleton, node_eq_of_sameButLine _ _ _ hst]
    refine approx_loop (Nat.le_succ limit) (fun _ _ h => h.1.wordCount_eq)
      (fun s t hst => h limit s t hst.1 hst.2) opener fun chance => ?_
    exact ⟨.refl _, hI.drawn _ chance (hI.begun s opener hs)⟩

end Invariant

/-- Runs of both sequences that have ended have ended alike, whatever their limits. -/
theorem alike_of_ended (h : Follows pre post p q) {limit limit' : Nat} {s : State} (hs : pre s)
    (hp : nodes limit p s ≠ .unfinished) (hq : nodes limit' q s ≠ .unfinished) :
    Alike SameButLine (nodes limit p s) (nodes limit' q s) := by
  -- Both are compared with a run of the second sequence under a limit above either.
  have hlong : limit + 1 ≤ limit + 1 + limit' := by omega
  have hlong' : limit' ≤ limit + 1 + limit' := by omega
  have hfirst := ((h limit s s (.refl s) hs).alike hp).mono fun _ _ hst => hst.1
  have hfirst' := (approx_nodes hlong q (.refl s)).alike hfirst.right_ne_unfinished
  have hsecond := (approx_nodes hlong' q (.refl s)).alike hq
  have hsecond' := hsecond.symm fun _ _ hst => hst.symm
  have hpq := hfirst.trans hfirst' fun _ _ _ hst htu => hst.trans htu
  exact hpq.trans hsecond' fun _ _ _ hst htu => hst.trans htu

theorem exists_ended (h : Follows pre post p q) {s : State} (hs : pre s)
    (hp : ∃ limit, nodes limit p s ≠ .unfinished) : ∃ limit, nodes limit q s ≠ .unfinished := by
  obtain ⟨limit, hlimit⟩ := hp
  exact ⟨limit + 1, ((h limit s s (.refl s) hs).alike hlimit).right_ne_unfinished⟩

end Follows

end ProseScript.Run
