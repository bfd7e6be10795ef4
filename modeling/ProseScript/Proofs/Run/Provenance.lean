import ProseScript.Proofs.Run.Arrival
import ProseScript.Proofs.Run.Faults
import ProseScript.Proofs.Run.Snippets
import ProseScript.Proofs.Run.Target
import ProseScript.Proofs.Run.Warnings

/-!
Where faults and warnings come from. Main statement: whatever a run blames or warns of is a line of
its program, though the snippets it calls were stored long before.
-/

namespace ProseScript

namespace Run

open Node (Occurs)

/-- What a node fails with by itself, it tells of. -/
theorem FailsItself.toldBy {n : Node} {s : State} {f : Fault} (h : FailsItself n s f) :
    f.ToldBy n := by
  have hown {kinds : List FaultKind} (hf : f.Raised kinds n.firstLine n.firstLine.keyword)
      (hmatched : .unmatchedCloser ∉ kinds) (hclosed : .unclosedBlock ∉ kinds) : f.ToldBy n :=
    ⟨_, _, .own n, hf.raisedOn hmatched hclosed⟩
  cases h with
  | @unknown l _ hidle hl =>
    have hf : (Fault.unknownCommand l).Raised [.unknownCommand] l l.keyword := by simp
    exact hown hf (by simp) (by simp)
  | write hl h => exact hown (raised_of_write _ _ h) (by simp) (by simp)
  | call hl h => exact hown (faults_calledBody _ _ f h) (by simp) (by simp)
  | simple hl hwrite hcall _ h =>
    rcases faults_simple _ _ _ f h with hf | ⟨hf, -⟩ | ⟨hf, -⟩
    · exact hown hf (by simp) (by simp)
    · exact hown hf (by simp) (by simp)
    · exact hown hf (by simp) (by simp)
  | generate _ h =>
    rcases faults_generate _ _ _ f h with hf | ⟨m, hm, hf⟩
    · exact hown hf (by simp) (by simp)
    · exact ⟨_, _, .field hm, hf.raisedOn⟩
  | snippet h => exact hown (faults_storeSnippet _ _ _ f h) (by simp) (by simp)
  | loop h => exact hown (faults_loopTarget _ _ f h) (by simp) (by simp)

/-- A run of nodes of the program blames nodes of the program. -/
theorem exists_toldBy_of_failed {p : Program} {limit : Nat} {ns : List Node}
    (hns : ∀ n ∈ ns, Occurs n p) {s : State} (hs : Supplied p s) {f : Fault} {shown : Array String}
    (h : nodes limit ns s = .failed f shown) : ∃ n, Occurs n p ∧ f.ToldBy n := by
  obtain ⟨n, t, hcomes, hself⟩ := exists_comes_of_failed h
  exact ⟨n, ((Supplied.invariant p).comes hcomes hns hs).1, hself.toldBy⟩

/-- Snippets and warnings both come from nodes of the program. -/
structure Sourced (p : Program) (s : State) : Prop where
  supplied : Supplied p s
  warnings : ∀ w ∈ s.warnings.toList, ∃ n, Occurs n p ∧ w.ToldBy n

namespace Sourced

variable {p : Program} {s t : State}

theorem initial (p : Program) (u : Setup) (c : Chance) : Sourced p (u.initial c) where
  supplied := .initial p u c
  warnings w hw := by simp [Setup.initial] at hw

theorem warned (hs : Sourced p s) (ht : Supplied p t) {n : Node} (hn : Occurs n p)
    (h : Warned (Warning.ToldBy n) s t) : Sourced p t :=
  ⟨ht, (h.imp fun _ hw => ⟨n, hn, hw⟩).forall_mem hs.warnings⟩

theorem line (hs : Sourced p s) (ht : Supplied p t) {l : Line} (hl : Occurs (.line l) p)
    (h : Warned (Warning.RaisedOn l l.keyword) s t) : Sourced p t :=
  hs.warned ht hl (h.imp fun _ hw => ⟨l, l.keyword, .own (.line l), hw⟩)

theorem invariant (p : Program) : Invariant (fun n => Occurs n p) (Sourced p) where
  begun s l hs := ⟨(Supplied.invariant p).begun s l hs.supplied, hs.warnings⟩
  drawn s chance hs := ⟨(Supplied.invariant p).drawn s chance hs.supplied, hs.warnings⟩
  simple c l s t hl hcommand hsafe h hs :=
    hs.line ((Supplied.invariant p).simple c l s t hl hcommand hsafe h hs.supplied) hl
      (warned_simple h)
  write limit l s t hl hcommand h hs :=
    hs.line ((Supplied.invariant p).write limit l s t hl hcommand h hs.supplied) hl (warned_write h)
  generate opener body closer s t hblock h hs :=
    hs.warned ((Supplied.invariant p).generate opener body closer s t hblock h hs.supplied) hblock
      (warned_generate closer h)
  snippet opener body closer s t hblock h hs := by
    have hwarnings : t.warnings = s.warnings := by rw [frame_storeSnippet h]
    exact hs.warned ((Supplied.invariant p).snippet opener body closer s t hblock h hs.supplied)
      hblock (.of_eq hwarnings)
  loopBody := (Supplied.invariant p).loopBody
  calledBody l s body h hs := (Supplied.invariant p).calledBody l s body h hs.supplied

end Sourced

/-- The line stands directly in the body of a `GEN` block, alone or as the opener of a block. -/
def InGenBody (p : Program) (l : Line) : Prop :=
  ∃ opener body closer n, Occurs (.block .gen opener body closer) p ∧ n ∈ body ∧ n.firstLine = l

theorem mem_lines_of_tells {p : Program} {n : Node} (hn : Occurs n p) {l : Line} {command : String}
    (h : n.Tells l command) :
    l ∈ p.lines ∧ (command = l.keyword ∨ command = "GEN" ∧ InGenBody p l) := by
  cases h with
  | own => exact ⟨hn.firstLine_mem, .inl rfl⟩
  | field hm => exact ⟨(hn.of_body hm).firstLine_mem, .inr ⟨rfl, _, _, _, _, hn, hm, rfl⟩⟩

/-- Faults and warnings name lines of the program. A run that fails does so with the number and the
text of one of its lines, under the line's own command word, or under `GEN` if the line stands in
the body of a `GEN` block; it never fails over how blocks nest. The warnings of every state that the
run leads to name lines in the same way. -/
theorem faults_and_warnings_name_lines (limit : Nat) (u : Setup) (p : Program) (c : Chance) :
    (∀ f shown, program limit u p c = .failed f shown →
      (∃ l ∈ p.lines, l.number = f.line ∧ l.text = f.text ∧
        (f.command = l.keyword ∨ f.command = "GEN" ∧ InGenBody p l)) ∧
      f.kind ≠ .unmatchedCloser ∧ f.kind ≠ .unclosedBlock) ∧
    ∀ t, program limit u p c = .finished t ∨ Reaches limit p (u.initial c) t →
      ∀ w ∈ t.warnings.toList, ∃ l ∈ p.lines, w.line = some l.number ∧ w.text = some l.text ∧
        (w.command = some l.keyword ∨ w.command = some "GEN" ∧ InGenBody p l) := by
  have hnodes (n : Node) (hn : n ∈ p) : Occurs n p := .here hn
  constructor
  · intro f shown hfailed
    obtain ⟨n, hn, l, command, htells, hf⟩ :=
      exists_toldBy_of_failed hnodes (Supplied.initial p u c) hfailed
    obtain ⟨hl, hcommand⟩ := mem_lines_of_tells hn htells
    rw [← hf.command_eq] at hcommand
    exact ⟨⟨l, hl, hf.line_eq.symm, hf.text_eq.symm, hcommand⟩, hf.matched, hf.closed⟩
  · intro t ht w hw
    have hsourced : Sourced p t := by
      rcases ht with ht | ht
      · exact (Sourced.invariant p).nodes hnodes ht (.initial p u c)
      · exact (Sourced.invariant p).reaches hnodes ht (.initial p u c)
    obtain ⟨n, hn, l, command, htells, hcommand, hline, htext⟩ := hsourced.warnings w hw
    obtain ⟨hl, hword⟩ := mem_lines_of_tells hn htells
    refine ⟨l, hl, hline, htext, ?_⟩
    rw [hcommand]
    simpa using hword

/-- Stores a snippet with a `GEN` block over a list that is not there, and calls it. -/
def sceneProgram : Program :=
  [.block .desc ⟨1, "DESC scene"⟩
    [.block .gen ⟨2, "GEN hero"⟩ [.line ⟨3, "job 1 jobs"⟩] ⟨4, "GENEND"⟩] ⟨5, "DESCEND"⟩,
   .line ⟨6, "CALL scene"⟩]

/-- The call fails on the third line, and a display of more than was written warns on its own. -/
theorem faults_and_warnings_name_lines_scene :
    let c : Chance := ⟨fun _ => 0, 0⟩
    let q : Program := [.line ⟨1, "DISPLAY 5"⟩]
    (∃ f shown, program 4 catSetup sceneProgram c = .failed f shown ∧ f.line = 3 ∧
      ∃ l ∈ sceneProgram.lines, l.number = f.line ∧ l.text = f.text ∧
        (f.command = l.keyword ∨ f.command = "GEN" ∧ InGenBody sceneProgram l)) ∧
    ∃ t, program 2 catSetup q c = .finished t ∧ t.warnings.size = 1 ∧
      ∀ w ∈ t.warnings.toList, ∃ l ∈ q.lines, w.line = some l.number ∧ w.text = some l.text := by
  intro c q
  constructor
  · have hline : (program 4 catSetup sceneProgram c).fault?.map (fun f => f.line) = some 3 := by
      decide +kernel
    obtain ⟨f, hf, hthree⟩ := Option.map_eq_some_iff.1 hline
    obtain ⟨shown, hfailed⟩ := Outcome.exists_failed hf
    obtain ⟨hnamed, -⟩ :=
      (faults_and_warnings_name_lines 4 catSetup sceneProgram c).1 f shown hfailed
    exact ⟨f, shown, hfailed, hthree, hnamed⟩
  · have hsize : (program 2 catSetup q c).last?.map (fun t => t.warnings.size) = some 1 := by
      decide +kernel
    obtain ⟨t, ht⟩ : ∃ t, program 2 catSetup q c = .finished t :=
      Outcome.exists_finished (by decide +kernel)
    rw [ht] at hsize
    refine ⟨t, ht, Option.some.inj hsize, ?_⟩
    intro w hw
    obtain ⟨l, hl, hnumber, htext, -⟩ :=
      (faults_and_warnings_name_lines 2 catSetup q c).2 t (.inl ht) w hw
    exact ⟨l, hl, hnumber, htext⟩

end Run

end ProseScript
