import ProseScript.Proofs.Run.Frame

/-!
Invariants of runs. Main statement: what every single step keeps, a whole run keeps, as long as the
nodes it meets in loops and calls are among those allowed.
-/

namespace ProseScript.Run

/-- A property of states that every step of the allowed nodes keeps. Bodies of loops and of called
snippets are made of allowed nodes again. -/
structure Kept (allowed : Node → Prop) (I : State → Prop) : Prop where
  begun : ∀ s l, I s → I { s with current := some l }
  target : ∀ opener body closer s n counting chance, allowed (.block .loop opener body closer) →
    loopTarget opener s = .ok (n, counting, chance) → I s → I { s with chance }
  simple : ∀ c l s t, allowed (.line l) → Command.ofLine? l = some c → crash? c l s = none →
    simple c l s = .ok t → I s → I t
  write : ∀ limit l s t, allowed (.line l) → Command.ofLine? l = some .write →
    write limit l s = .finished t → I s → I t
  generate : ∀ opener body closer s t, allowed (.block .gen opener body closer) →
    generate opener body s = .ok t → I s → I t
  snippet : ∀ opener body closer s t, allowed (.block .desc opener body closer) →
    storeSnippet opener body s = .ok t → I s → I t
  loopBody : ∀ opener body closer, allowed (.block .loop opener body closer) →
    ∀ n ∈ body, allowed n
  calledBody : ∀ l s body, calledBody l s = .ok body → I s → ∀ n ∈ body, allowed n

namespace Kept

variable {allowed : Node → Prop} {I : State → Prop}

theorem times {pass : State → Outcome State} (hpass : ∀ s t, pass s = .finished t → I s → I t)
    {k : Nat} {s t : State} (h : Outcome.times pass k s = .finished t) : I s → I t :=
  Outcome.rel_of_times (R := fun s t => I s → I t) (fun _ => id)
    (fun _ _ _ hst htu => htu ∘ hst) hpass h

variable (hI : Kept allowed I)
include hI

theorem loop {pass : State → Outcome State} (hpass : ∀ s t, pass s = .finished t → I s → I t)
    {limit : Nat} {opener closer : Line} {body : List Node}
    (hn : allowed (.block .loop opener body closer)) {s t : State}
    (h : loop pass limit opener s = .finished t) (hs : I s) : I t := by
  obtain ⟨n, counting, chance, k, htarget, hk⟩ := times_of_loop h
  exact times hpass hk (hI.target opener body closer s n counting chance hn htarget hs)

section Body

variable {body : List Node → State → Outcome State}
  (hbody : ∀ ns s t, (∀ n ∈ ns, allowed n) → body ns s = .finished t → I s → I t)
include hbody

theorem line {limit : Nat} {l : Line} (hl : allowed (.line l)) {s t : State}
    (h : line body limit l s = .finished t) (hs : I s) : I t := by
  unfold Run.line at h
  split at h
  · exact Outcome.finished.inj h ▸ hs
  split at h
  · simp at h
  · next hcommand => exact hI.write limit l s t hl hcommand h hs
  · split at h
    · next ns hcall => exact hbody ns s t (hI.calledBody l s ns hcall hs) h hs
    · simp at h
  · next c _ _ hcommand =>
    obtain ⟨hsafe, hrun⟩ := Outcome.checked_eq_finished_iff.1 h
    exact hI.simple c l s t hl hcommand hsafe hrun hs

theorem node {limit : Nat} {n : Node} (hn : allowed n) {s t : State}
    (h : node body limit n s = .finished t) (hs : I s) : I t := by
  cases n with
  | line l => exact hI.line hbody hn h (hI.begun s l hs)
  | block kind opener ns closer =>
    have hbegun := hI.begun s opener hs
    cases kind with
    | gen =>
      exact hI.generate opener ns closer _ t hn (Outcome.checked_eq_finished_iff.1 h).2 hbegun
    | desc =>
      exact hI.snippet opener ns closer _ t hn (Outcome.ofExcept_eq_finished_iff.1 h) hbegun
    | loop => exact hI.loop (fun s t => hbody ns s t (hI.loopBody opener ns closer hn)) hn h hbegun

end Body

omit hI in
theorem inOrder {step : Node → State → Outcome State}
    (hstep : ∀ n s t, allowed n → step n s = .finished t → I s → I t) {ns : List Node}
    (hns : ∀ n ∈ ns, allowed n) {s t : State} (h : inOrder step ns s = .finished t) (hs : I s) :
    I t := by
  induction ns generalizing s with
  | nil => exact Outcome.finished.inj h ▸ hs
  | cons n rest ih =>
    rw [inOrder_cons] at h
    obtain ⟨u, hu, hrest⟩ := Outcome.bind_eq_finished_iff.1 h
    have hnext := hstep n s u (hns n (by simp)) hu hs
    exact ih (fun m hm => hns m (by simp [hm])) hrest hnext

theorem nodes {limit : Nat} {ns : List Node} (hns : ∀ n ∈ ns, allowed n) {s t : State}
    (h : nodes limit ns s = .finished t) (hs : I s) : I t := by
  -- Bodies are run under a lower limit, however they came to be run.
  induction limit generalizing ns s t with
  | zero => simp [Run.nodes] at h
  | succ limit ih =>
    refine inOrder (fun n s t hn => hI.node ?_ hn) hns h hs
    intro ns s t hns hrun hs
    exact ih hns hrun hs

end Kept

/-- A kept property that holds whatever is drawn. -/
structure Invariant (allowed : Node → Prop) (I : State → Prop) : Prop extends Kept allowed I where
  drawn : ∀ s chance, I s → I { s with chance }
  target _ _ _ s _ _ chance _ _ := drawn s chance

theorem Invariant.always : Invariant (fun _ => True) fun _ => True where
  begun := by simp
  drawn := by simp
  simple := by simp
  write := by simp
  generate := by simp
  snippet := by simp
  loopBody := by simp
  calledBody := by simp

end ProseScript.Run
