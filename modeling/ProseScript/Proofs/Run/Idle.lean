import ProseScript.Proofs.Program.Idle
import ProseScript.Proofs.Run.Follow
import ProseScript.Proofs.Run.Recast
import ProseScript.Proofs.Run.Snippets

/-!
Blank lines and comments during a run. Main statement: a program and the program of its other lines
run alike, but for the current line and for the idle lines in stored snippets.
-/

namespace ProseScript

open Node (stripAll)

namespace Run

open Outcome (Parallel)

theorem fillFields_strip (ns : List Node) (members : List Entity) (s : State) (k : Option Line)
    (sn : Table (List Node)) :
    ∃ k', fillFields (stripAll ns) members (s.recast k sn) =
      (fillFields ns members s).map fun x => (x.1, x.2.recast k' sn) := by
  induction ns generalizing members s k with
  | nil => exact ⟨k, rfl⟩
  | cons n rest ih =>
    cases n with
    | line l =>
      cases hidle : l.isIdle with
      | true =>
        have hskip : fillFields (.line l :: rest) members s =
            fillFields rest members { s with current := some l } := by
          simp [fillFields, fillField, hidle]
        obtain ⟨k', hk'⟩ := ih members { s with current := some l } k
        refine ⟨k', ?_⟩
        rw [hskip, ← hk', stripAll, Node.strip_idle hidle]
        rfl
      | false =>
        have hbegun : { s.recast k sn with current := some l } =
          State.recast { s with current := some l } (some l) sn := rfl
        have hfield := fillField_recast l { s with current := some l } (some l) sn members
        rw [stripAll, Node.strip_line hidle, List.singleton_append]
        simp only [fillFields, hbegun, hfield]
        cases fillField l members { s with current := some l } with
        | error f => exact ⟨k, rfl⟩
        | ok filled => exact ih filled.1 filled.2 (some l)
    | block kind opener body closer => exact ⟨k, rfl⟩

theorem generate_strip (opener : Line) (body : List Node) (s : State) (k : Option Line)
    (sn : Table (List Node)) :
    ∃ k', generate opener (stripAll body) (s.recast k sn) =
      (generate opener body s).map fun t => t.recast k' sn := by
  cases hwords : opener.paramWords with
  | nil => exact ⟨k, by simp only [generate, hwords]; rfl⟩
  | cons word options =>
    have hgroup : (s.recast k sn).store.group? (Text.lower word) =
      s.store.group? (Text.lower word) := rfl
    simp only [generate, hwords, hgroup, State.recast_ite_warn]
    split
    · exact ⟨k, rfl⟩
    split
    · exact ⟨k, rfl⟩
    · -- Only the state after the warning matters from here on.
      generalize (if (s.store.group? (Text.lower word)).isSome then
        s.warn ((overwriteWarning (Text.lower word)).on opener) else s) = u
      change ∃ k', (memberCount opener u.chance options[0]? >>= _) = _
      cases memberCount opener u.chance options[0]? with
      | error f => exact ⟨k, rfl⟩
      | ok counted =>
        change ∃ k', (newMembers opener u.genders counted.1 counted.2 options[1]? >>= _) = _
        cases hnew : newMembers opener u.genders counted.1 counted.2 options[1]? with
        | error f => exact ⟨k, by simp [Bind.bind, Except.bind, Except.map, hnew]⟩
        | ok made =>
          obtain ⟨k', hfill⟩ := fillFields_strip body made.1 { u with chance := made.2 } k sn
          have hfill' : fillFields (stripAll body) made.1 { u.recast k sn with chance := made.2 } =
            _ := hfill
          refine ⟨k', ?_⟩
          simp only [Bind.bind, Except.bind, hnew, hfill']
          cases fillFields body made.1 { u with chance := made.2 } with
          | error f => rfl
          | ok filled =>
            simp only [Except.map, State.store_recast, storeGroup_withSnippets]
            cases storeGroup opener (Text.lower word) filled.1 filled.2.store <;> rfl

/-- The second state holds the snippets of the first one without their idle lines. Beside that they
differ at most in their current line. -/
def Stripped (s t : State) : Prop := t = s.recast t.current (s.store.snippets.map stripAll)

namespace Stripped

theorem initial (u : Setup) (c : Chance) : Stripped (u.initial c) (u.initial c) := rfl

theorem of_recast {s : State} {k : Option Line} {sn : Table (List Node)}
    (h : s.store.snippets.map stripAll = sn) : Stripped s (s.recast k sn) := by
  rw [← h]
  rfl

variable {s t : State} (h : Stripped s t)
include h

theorem begun (l : Line) : Stripped { s with current := some l } { t with current := some l } := by
  rw [h]
  rfl

theorem idle (l : Line) : Stripped { s with current := some l } t := by
  rw [h]
  rfl

theorem drawn (chance : Chance) : Stripped { s with chance } { t with chance } := by
  rw [h]
  rfl

theorem shown_eq : t.shown = s.shown := by
  rw [h]
  rfl

theorem wordCount_eq : t.wordCount = s.wordCount := by
  rw [h]
  rfl

theorem loopTarget (opener : Line) : loopTarget opener t = loopTarget opener s := by
  rw [h]
  simp only [Run.loopTarget, loopAmount, namedCount, State.lookup_recast]
  rfl

theorem calledBody (l : Line) : calledBody l t = (calledBody l s).map stripAll := by
  have hget (name : String) : t.store.snippet? name = (s.store.snippet? name).map stripAll := by
    rw [h]
    exact Table.get?_map stripAll s.store.snippets (Text.lower name)
  simp only [Run.calledBody, hget]
  split
  · next word _ => cases s.store.snippet? (Text.lower word) <;> rfl
  · rfl

theorem setSnippet (name : String) (body : List Node) :
    Stripped { s with store := s.store.setSnippet name body }
      { t with store := t.store.setSnippet name (stripAll body) } := by
  have hinsert := Table.map_insert stripAll s.store.snippets (Text.lower name) body
  rw [h]
  unfold Stripped State.recast Store.withSnippets Store.setSnippet
  simp only [hinsert]

theorem storeSnippet (opener : Line) (body : List Node) :
    Parallel Stripped (.ofExcept s.shown (storeSnippet opener body s))
      (.ofExcept t.shown (storeSnippet opener (stripAll body) t)) := by
  rw [h.shown_eq]
  unfold Run.storeSnippet
  split
  · next name _ => exact .finished (h.setSnippet name body)
  · exact .failed _ _

theorem generate (opener : Line) (body : List Node) :
    Parallel Stripped (.checked (genCrash? opener s) s.shown (generate opener body s))
      (.checked (genCrash? opener t) t.shown (generate opener (stripAll body) t)) := by
  obtain ⟨k, hk⟩ := generate_strip opener body s t.current (s.store.snippets.map stripAll)
  rw [h.shown_eq, h, hk, genCrash?_recast]
  refine .checked_map _ s.shown fun u hu => ?_
  exact of_recast (by rw [storeSteps_snippets.generate hu])

theorem simple (c : Command) (l : Line) :
    Parallel Stripped (.checked (crash? c l s) s.shown (simple c l s))
      (.checked (crash? c l t) t.shown (simple c l t)) := by
  rw [h.shown_eq, h, simple_recast, crash?_recast]
  refine .checked_map _ s.shown fun u hu => ?_
  exact of_recast (by rw [storeSteps_snippets.simple hu])

theorem write (limit : Nat) (l : Line) :
    Parallel Stripped (write limit l s) (write limit l t) := by
  rw [h]
  refine (write_recast l s t.current (s.store.snippets.map stripAll) limit).imp ?_
  rintro u _ hu rfl
  exact of_recast (by rw [storeSteps_snippets.write hu])

theorem loop {pass pass' : State → Outcome State}
    (hpass : ∀ s t, Stripped s t → Parallel Stripped (pass s) (pass' t)) (limit : Nat)
    (opener : Line) : Parallel Stripped (loop pass limit opener s) (loop pass' limit opener t) := by
  unfold Run.loop
  rw [h.loopTarget]
  split
  · rw [h.shown_eq]
    exact .failed _ _
  next n counting chance _ =>
  have hspan : counting.span? t.wordCount n = counting.span? s.wordCount n := by rw [h.wordCount_eq]
  rw [hspan]
  split
  · rw [h.shown_eq]
    exact .crashed _ _
  · next start stop _ =>
    exact Parallel.repeated hpass counting (fun _ _ h => h.wordCount_eq.symm) limit start stop
      (h.drawn chance)

section Body

variable {body body' : List Node → State → Outcome State}
  (hbody : ∀ ns s t, Stripped s t → Parallel Stripped (body ns s) (body' (stripAll ns) t))
include hbody

theorem line {l : Line} (hl : l.isIdle = false) (limit : Nat) :
    Parallel Stripped (line body limit l s) (line body' limit l t) := by
  simp only [Run.line, hl, h.shown_eq, h.calledBody]
  split
  · contradiction
  split
  · exact .failed _ _
  · exact h.write limit l
  · cases Run.calledBody l s with
    | ok ns => exact hbody ns s t h
    | error f => exact .failed _ _
  · next c _ _ _ =>
    have hrun := h.simple c l
    rw [h.shown_eq] at hrun
    exact hrun

/-- A node runs like what is left of it. -/
theorem node (n : Node) (limit : Nat) :
    Parallel Stripped (node body limit n s) (inOrder (Run.node body' limit) n.strip t) := by
  cases n with
  | line l =>
    cases hidle : l.isIdle with
    | true =>
      have hrun : Run.node body limit (.line l) s = .finished { s with current := some l } := by
        simp [Run.node, Run.line, hidle]
      rw [hrun, Node.strip_idle hidle]
      exact .finished (h.idle l)
    | false =>
      rw [Node.strip_line hidle, inOrder_singleton]
      exact (h.begun l).line hbody hidle limit
  | block kind opener ns closer =>
    rw [Node.strip, inOrder_singleton]
    cases kind with
    | gen => exact (h.begun opener).generate opener ns
    | desc => exact (h.begun opener).storeSnippet opener ns
    | loop => exact (h.begun opener).loop (hbody ns) limit opener

end Body

theorem inOrder {step step' : Node → State → Outcome State}
    (hstep : ∀ n s t, Stripped s t → Parallel Stripped (step n s) (inOrder step' n.strip t))
    (ns : List Node) :
    Parallel Stripped (inOrder step ns s) (inOrder step' (stripAll ns) t) := by
  induction ns generalizing s t with
  | nil => exact .finished h
  | cons n rest ih =>
    rw [inOrder_cons, stripAll, inOrder_append]
    exact (hstep n s t h).bind fun s t h => ih h

theorem nodes (limit : Nat) (ns : List Node) :
    Parallel Stripped (nodes limit ns s) (nodes limit (stripAll ns) t) := by
  -- One limit does for both: what is left out runs no body and so uses nothing of it up.
  induction limit generalizing ns s t with
  | zero => exact .unfinished
  | succ limit ih =>
    refine h.inOrder (fun n s t h => ?_) ns
    exact h.node (fun ns s t h => ih h ns) n limit

end Stripped

/-- Blank lines and comments have no effect. Leaving them out before nesting leaves their leaves out
of the tree, and the program without them runs like the whole one: within any limit either both end
or neither does, and they end with one fault or in states that differ at most in the current line
and in the idle lines of stored snippets. -/
theorem idle_lines_have_no_effect :
    (∀ ls : List Line, Program.ofLines (ls.filter fun l => !l.isIdle) =
      (Program.ofLines ls).map stripAll) ∧
    ∀ (limit : Nat) (u : Setup) (p : Program) (c : Chance),
      Parallel Stripped (program limit u p c) (program limit u (stripAll p) c) := by
  constructor
  · exact Program.ofLines_strip
  · intro limit u p c
    exact (Stripped.initial u c).nodes limit p

end Run

end ProseScript
