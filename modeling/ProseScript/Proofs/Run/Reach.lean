import ProseScript.Proofs.Run.Invariant

/-!
The states of a run. Main statement: a relation that every command and every beginning of a block
carries from one state to the next relates the first state of a run to all later ones, inside blocks
and calls too.
-/

namespace ProseScript.Run

/-- A reflexive and transitive relation of states that every single step carries. -/
structure Carried (R : State → State → Prop) : Prop where
  refl : ∀ s, R s s
  trans : ∀ s t u, R s t → R t u → R s u
  begun : ∀ s l, R s { s with current := some l }
  drawn : ∀ s chance, R s { s with chance }
  simple : ∀ c l s t, crash? c l s = none → simple c l s = .ok t → R s t
  write : ∀ limit l s t, write limit l s = .finished t → R s t
  generate : ∀ opener body s t, generate opener body s = .ok t → R s t
  snippet : ∀ opener body s t, storeSnippet opener body s = .ok t → R s t

/-- Being related to the first state is an invariant, whatever nodes are run. -/
theorem Carried.invariant {R : State → State → Prop} (hR : Carried R) (first : State) :
    Invariant (fun _ => True) (R first) where
  begun s l h := hR.trans _ _ _ h (hR.begun s l)
  drawn s chance h := hR.trans _ _ _ h (hR.drawn s chance)
  simple c l s t _ _ hsafe hrun h := hR.trans _ _ _ h (hR.simple c l s t hsafe hrun)
  write limit l s t _ _ hrun h := hR.trans _ _ _ h (hR.write limit l s t hrun)
  generate opener body _ s t _ hrun h := hR.trans _ _ _ h (hR.generate opener body s t hrun)
  snippet opener body _ s t _ hrun h := hR.trans _ _ _ h (hR.snippet opener body s t hrun)
  loopBody _ _ _ _ _ _ := trivial
  calledBody _ _ _ _ _ _ _ := trivial

/-- The states that one pass over a sequence meets, before each of its nodes and after the last, and
inside its loops and calls. -/
inductive Meets : Nat → List Node → State → State → Prop
  | here (limit : Nat) (ns : List Node) (s : State) : Meets limit ns s s
  | next {limit : Nat} {n : Node} {rest : List Node} {s s' t : State}
      (hn : node (nodes limit) limit n s = .finished s') (ht : Meets (limit + 1) rest s' t) :
      Meets (limit + 1) (n :: rest) s t
  | pass {limit : Nat} {opener closer : Line} {body rest : List Node} {s s' t : State}
      {n k : Nat} {counting : Counting} {chance : Chance}
      (htarget : loopTarget opener { s with current := some opener } = .ok (n, counting, chance))
      (hs : Outcome.times (nodes limit body) k { s with current := some opener, chance } =
        .finished s')
      (ht : Meets limit body s' t) :
      Meets (limit + 1) (.block .loop opener body closer :: rest) s t
  | call {limit : Nat} {l : Line} {body rest : List Node} {s t : State}
      (hl : Command.ofLine? l = some .call)
      (hbody : calledBody l { s with current := some l } = .ok body)
      (ht : Meets limit body { s with current := some l } t) :
      Meets (limit + 1) (.line l :: rest) s t

/-- The states that a sequence leads to when it is run any number of times. -/
def Reaches (limit : Nat) (ns : List Node) (s t : State) : Prop :=
  ∃ k s', Outcome.times (nodes limit ns) k s = .finished s' ∧ Meets limit ns s' t

theorem reaches_of_execute {limit : Nat} {ns : List Node} {counting : Counting}
    {progress stop : Nat} {s t : State}
    (h : execute limit ns counting progress stop s = .finished t) : Reaches limit ns s t := by
  obtain ⟨k, hk⟩ := Outcome.exists_times_of_repeated h
  exact ⟨k, t, hk, .here limit ns t⟩

/-- The state that a finished run ends in is reached. -/
theorem exists_reached (limit : Nat) (u : Setup) (p : Program) (c : Chance) (P : State → Bool)
    (h : (execute limit p .cycles 0 1 (u.initial c)).last?.any P = true) :
    ∃ t, Reaches limit p (u.initial c) t ∧ P t = true := by
  obtain ⟨t, ht, hP⟩ := (Option.any_eq_true _ _).1 h
  cases hrun : execute limit p .cycles 0 1 (u.initial c) with
  | finished s =>
    obtain rfl : s = t := by simpa [hrun, Outcome.last?] using ht
    exact ⟨s, reaches_of_execute hrun, hP⟩
  | failed fault shown => simp [hrun, Outcome.last?] at ht
  | crashed crash shown => simp [hrun, Outcome.last?] at ht
  | unfinished => simp [hrun, Outcome.last?] at ht

namespace Invariant

variable {allowed : Node → Prop} {I : State → Prop} (hI : Invariant allowed I)
include hI

theorem meets {limit : Nat} {ns : List Node} {s t : State} (h : Meets limit ns s t)
    (hns : ∀ n ∈ ns, allowed n) (hs : I s) : I t := by
  induction h with
  | here limit ns s => exact hs
  | next hn _ ih =>
    have hnext := hI.node (fun _ _ _ hns => hI.nodes hns) (hns _ (by simp)) hn hs
    exact ih (fun m hm => hns m (by simp [hm])) hnext
  | @pass limit opener closer body _ s _ _ _ _ _ chance _ hpasses _ ih =>
    have hbody := hI.loopBody opener body closer (hns _ (by simp))
    have hbegun := hI.drawn _ chance (hI.begun s opener hs)
    exact ih hbody (Kept.times (fun _ _ => hI.nodes hbody) hpasses hbegun)
  | @call _ l body _ s _ _ hcall _ ih =>
    have hbegun := hI.begun s l hs
    exact ih (hI.calledBody l _ body hcall hbegun) hbegun

theorem reaches {limit : Nat} {ns : List Node} (hns : ∀ n ∈ ns, allowed n) {s t : State}
    (h : Reaches limit ns s t) (hs : I s) : I t := by
  obtain ⟨k, s', hpasses, hmeets⟩ := h
  exact hI.meets hmeets hns (Kept.times (fun _ _ => hI.nodes hns) hpasses hs)

end Invariant

theorem Carried.reaches {R : State → State → Prop} (hR : Carried R) {limit : Nat} {ns : List Node}
    {s t : State} (h : Reaches limit ns s t) : R s t :=
  (hR.invariant s).reaches (fun _ _ => trivial) h (hR.refl s)

end ProseScript.Run
