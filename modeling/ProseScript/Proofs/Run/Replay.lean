import ProseScript.Proofs.Run.Follow

/-!
Loops of a fixed number of passes. Main statement: such a loop can be replaced by copies of its body,
inside other loops too, and every run stays the same but for the line last begun.
-/

namespace ProseScript

namespace Run

open Outcome (Approx Alike)
open State (SameButLine)

/-- An opener that asks for `n` passes in every state. -/
inductive FixedPasses : Line → Nat → Prop
  | bare {opener : Line} (hparams : opener.paramWords = []) : FixedPasses opener 1
  | literal {opener : Line} {param : String} {n : Nat} (hparams : opener.paramWords = [param])
      (hcount : Amount.ofText? param = some (.count n)) (hpos : 1 ≤ n) : FixedPasses opener n

/-- One loop, at any depth of loops, is replaced by copies of its body. -/
inductive Unrolls : List Node → List Node → Prop
  | here (before after : List Node) {opener closer : Line} {body : List Node} {n : Nat}
      (hpasses : FixedPasses opener n) :
      Unrolls (before ++ [.block .loop opener body closer] ++ after)
        (before ++ (List.replicate n body).flatten ++ after)
  | inside (before after : List Node) {opener closer : Line} {body body' : List Node}
      (hbody : Unrolls body body') :
      Unrolls (before ++ [.block .loop opener body closer] ++ after)
        (before ++ [.block .loop opener body' closer] ++ after)

theorem loopTarget_of_fixedPasses {opener : Line} {n : Nat} (h : FixedPasses opener n) (s : State) :
    loopTarget opener s = .ok (n, .cycles, s.chance) := by
  cases h with
  | bare hparams => simp [loopTarget, loopAmount, hparams]
  | literal hparams hcount hpos =>
    have hne : n ≠ 0 := by omega
    simp [loopTarget, loopAmount, hparams, hcount, Amount.resolve_count, Amount.counting, hne]

theorem loop_of_fixedPasses {opener : Line} {n : Nat} (h : FixedPasses opener n)
    (pass : State → Outcome State) (limit : Nat) (s : State) :
    loop pass limit opener s = Outcome.times pass n s := by
  rw [loop, loopTarget_of_fixedPasses h]
  simp [passes, Outcome.repeated]

/-- Copies in a row run as passes in a row. -/
theorem nodes_replicate (limit n : Nat) (body : List Node) (s : State) :
    nodes (limit + 1) (List.replicate n body).flatten s =
      Outcome.times (nodes (limit + 1) body) n s := by
  induction n generalizing s with
  | zero => rfl
  | succ n ih =>
    rw [List.replicate_succ, List.flatten_cons, nodes_append, Outcome.times_succ]
    congr 1
    funext t
    exact ih t

theorem nodes_fixedLoop {opener closer : Line} {n : Nat} (h : FixedPasses opener n) (limit : Nat)
    (body : List Node) (s : State) :
    nodes (limit + 1) [.block .loop opener body closer] s =
      Outcome.times (nodes limit body) n { s with current := some opener } := by
  rw [nodes_singleton, node, loop_of_fixedPasses h]

namespace Follows

theorem unrolled {opener closer : Line} {n : Nat} (h : FixedPasses opener n) (body : List Node) :
    AlwaysFollows [.block .loop opener body closer] (List.replicate n body).flatten := by
  refine always fun limit s t hst => ?_
  cases limit with
  | zero => exact .inl rfl
  | succ limit =>
    rw [nodes_fixedLoop h, nodes_replicate]
    have hbegun : SameButLine { s with current := some opener } t :=
      (SameButLine.begun s opener).symm.trans hst
    exact Approx.times (fun s t hst => approx_nodes (by omega) body hst) n hbegun

-- One limit more is just what the block takes away for its body.
theorem rolled {opener closer : Line} {n : Nat} (h : FixedPasses opener n) (body : List Node) :
    AlwaysFollows (List.replicate n body).flatten [.block .loop opener body closer] := by
  refine always fun limit s t hst => ?_
  cases limit with
  | zero => exact .inl rfl
  | succ limit =>
    rw [nodes_fixedLoop h, nodes_replicate]
    have hbegun : s.SameButLine { t with current := some opener } :=
      hst.trans (SameButLine.begun t opener)
    exact Approx.times (fun s t hst => approx_nodes (by omega) body hst) n hbegun

end Follows

theorem follows_of_unrolls {p q : List Node} (h : Unrolls p q) :
    AlwaysFollows p q ∧ AlwaysFollows q p := by
  have hI := Invariant.always
  induction h with
  | here before after hpasses =>
    exact ⟨(Follows.unrolled hpasses _).around hI (by simp) (by simp),
      (Follows.rolled hpasses _).around hI (by simp) (by simp)⟩
  | inside before after _ ih =>
    exact ⟨(ih.1.loop hI _ _).around hI (by simp) (by simp),
      (ih.2.loop hI _ _).around hI (by simp) (by simp)⟩

/-- A program and the program with a loop replaced by copies of its body run alike from every state:
if one ends under some limit, so does the other, and they end in states that differ at most in the
current line or with the same fault after the same displayed texts. -/
theorem unrolled_program_runs_alike {p q : Program} (h : Unrolls p q) (s : State) :
    ((∃ limit, nodes limit p s ≠ .unfinished) ↔ ∃ limit, nodes limit q s ≠ .unfinished) ∧
    ∀ limit limit', nodes limit p s ≠ .unfinished → nodes limit' q s ≠ .unfinished →
      Alike SameButLine (nodes limit p s) (nodes limit' q s) := by
  obtain ⟨hpq, hqp⟩ := follows_of_unrolls h
  refine ⟨⟨hpq.exists_ended trivial, hqp.exists_ended trivial⟩, ?_⟩
  intro limit limit' hp hq
  exact hpq.alike_of_ended trivial hp hq

/-- A fresh run without words and sentences, whose draws are all zero. -/
def bareState : State :=
  Setup.initial ⟨.ofEntries [], .ofEntries [], .standard, .standard, "w", "s"⟩ ⟨fun _ => 0, 0⟩

/-- Writes two chapters at a time until there are three words. -/
def chapterLoops : Program := [
  .block .loop ⟨1, "LOOP 3W"⟩
    [.block .loop ⟨2, "LOOP 2"⟩ [.line ⟨3, "NEWCHAPTER"⟩] ⟨4, "LOOPEND"⟩] ⟨5, "LOOPEND"⟩]

def chapterCopies : Program := [
  .block .loop ⟨1, "LOOP 3W"⟩ [.line ⟨3, "NEWCHAPTER"⟩, .line ⟨3, "NEWCHAPTER"⟩] ⟨5, "LOOPEND"⟩]

theorem unrolled_program_runs_alike_chapters :
    Unrolls chapterLoops chapterCopies ∧
    ∃ s t, nodes 3 chapterLoops bareState = .finished s ∧
      nodes 2 chapterCopies bareState = .finished t ∧ s.SameButLine t := by
  have hpasses : FixedPasses ⟨2, "LOOP 2"⟩ 2 :=
    .literal (by decide +kernel : _ = ["2"]) (by decide +kernel) (by omega)
  have hunrolls : Unrolls chapterLoops chapterCopies := .inside [] [] (.here [] [] hpasses)
  have hloops : (nodes 3 chapterLoops bareState).last?.isSome = true := by decide +kernel
  have hcopies : (nodes 2 chapterCopies bareState).last?.isSome = true := by decide +kernel
  obtain ⟨s, hs⟩ := Outcome.exists_finished hloops
  obtain ⟨t, ht⟩ := Outcome.exists_finished hcopies
  have halike := (unrolled_program_runs_alike hunrolls bareState).2 3 2 (by simp [hs]) (by simp [ht])
  rw [hs, ht] at halike
  cases halike with
  | finished hst => exact ⟨hunrolls, s, t, hs, ht, hst⟩

end Run

end ProseScript
