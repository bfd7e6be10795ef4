import ProseScript.Proofs.Program.Occurs
import ProseScript.Proofs.Run.StoreSteps
import ProseScript.Proofs.Store.Locate

/-!
Snippets during a run. Main statement: every stored snippet is the body of a `DESC` block of the
program, under the name that the block gives it, so that calls only lead to nodes of the program.
-/

namespace ProseScript.Run

open Node (Occurs)

theorem storeSteps_snippets : StoreSteps fun s t => t.snippets = s.snippets where
  refl _ := rfl
  trans _ _ _ hst htu := htu.trans hst
  assign _ _ _ _ _ h := (Store.assigned_of_assign h).snippets_eq
  regroup _ _ _ _ _ _ := rfl

theorem storeSnippet_eq_ok_iff {opener : Line} {body : List Node} {s t : State} :
    storeSnippet opener body s = .ok t ↔
      ∃ word, opener.paramWords = [word] ∧
        t = { s with store := s.store.setSnippet word body } := by
  unfold storeSnippet
  split
  · next word hword => simp [hword, eq_comm]
  · next hparams => simpa using fun word hword => absurd hword (hparams word)

theorem calledBody_eq_ok_iff {l : Line} {s : State} {body : List Node} :
    calledBody l s = .ok body ↔
      ∃ word, l.paramWords = [word] ∧ s.store.snippets.get? (Text.lower word) = some body := by
  unfold calledBody
  split
  · next word hword =>
    simp only [Store.snippet?, Text.lower_lower, hword, List.cons.injEq, and_true]
    cases hfound : s.store.snippets.get? (Text.lower word) <;> simp [hfound]
  · next hparams => simpa using fun word hword => absurd hword (hparams word)

theorem missing_of_calledBody {l : Line} {s : State} {f : Fault} (h : calledBody l s = .error f)
    (hkind : f.kind = .unknownVariable) :
    ∃ word, l.paramWords = [word] ∧ s.store.snippets.contains (Text.lower word) = false := by
  simp only [calledBody] at h
  split at h
  · next word hword =>
    split at h
    · simp at h
    · next hmissing =>
      have hnone : s.store.snippets.get? (Text.lower word) = none := by
        simpa [Store.snippet?, Text.lower_lower] using hmissing
      exact ⟨word, hword, by simp [Table.contains, hnone]⟩
  · rw [← Except.error.inj h] at hkind
    simp [Fault.parameterCount, Fault.on, Fault.expecting, Fault.given] at hkind

/-- Every stored snippet has a property, told from its name and its body. -/
def Stocked (P : String → List Node → Prop) (s : State) : Prop :=
  ∀ name body, s.store.snippets.get? name = some body → P name body

namespace Stocked

variable {P : String → List Node → Prop} {s t : State}

theorem congr (hs : Stocked P s) (h : t.store.snippets = s.store.snippets) : Stocked P t := by
  intro name body hbody
  rw [h] at hbody
  exact hs name body hbody

theorem initial (P : String → List Node → Prop) (u : Setup) (c : Chance) :
    Stocked P (u.initial c) := by
  intro name body hbody
  have hempty : (u.initial c).store.snippets = .empty := rfl
  simp [hempty] at hbody

theorem setSnippet (hs : Stocked P s) {word : String} {body : List Node}
    (hbody : P (Text.lower word) body) :
    Stocked P { s with store := s.store.setSnippet word body } := by
  intro name ns hns
  change (s.store.snippets.insert (Text.lower word) body).get? name = some ns at hns
  rw [Table.get?_insert] at hns
  split at hns
  · next hname =>
    rw [← Option.some.inj hns, hname]
    exact hbody
  · exact hs name ns hns

theorem of_call (hs : Stocked P s) {l : Line} {body : List Node} (h : calledBody l s = .ok body) :
    ∃ word, l.paramWords = [word] ∧ P (Text.lower word) body := by
  obtain ⟨word, hword, hfound⟩ := calledBody_eq_ok_iff.1 h
  exact ⟨word, hword, hs _ body hfound⟩

/-- A property of what allowed blocks describe is kept for everything stored. -/
theorem invariant {allowed : Node → Prop}
    (hdesc : ∀ opener body closer word, allowed (.block .desc opener body closer) →
      opener.paramWords = [word] → P (Text.lower word) body)
    (hloop : ∀ opener body closer, allowed (.block .loop opener body closer) → ∀ n ∈ body, allowed n)
    (hcall : ∀ name body, P name body → ∀ n ∈ body, allowed n) : Invariant allowed (Stocked P) where
  begun _ _ hs := hs.congr rfl
  drawn _ _ hs := hs.congr rfl
  simple _ _ _ _ _ _ _ h hs := hs.congr (storeSteps_snippets.simple h)
  write _ _ _ _ _ _ h hs := hs.congr (storeSteps_snippets.write h)
  generate _ _ _ _ _ _ h hs := hs.congr (storeSteps_snippets.generate h)
  snippet opener body closer s t hblock h hs := by
    obtain ⟨word, hword, rfl⟩ := storeSnippet_eq_ok_iff.1 h
    exact hs.setSnippet (hdesc opener body closer word hblock hword)
  loopBody := hloop
  calledBody l s body h hs := by
    obtain ⟨word, -, hbody⟩ := hs.of_call h
    exact hcall _ body hbody

end Stocked

/-- A block of a program that describes a name by a body. -/
def Describes (p : Program) (name : String) (body : List Node) : Prop :=
  ∃ opener closer word, Occurs (.block .desc opener body closer) p ∧
    opener.paramWords = [word] ∧ Text.lower word = name

/-- Every stored snippet comes from a block of the program. -/
def Supplied (p : Program) (s : State) : Prop :=
  ∀ name body, s.store.snippets.get? name = some body → Describes p name body

namespace Supplied

variable {p : Program} {s : State}

theorem initial (p : Program) (u : Setup) (c : Chance) : Supplied p (u.initial c) :=
  Stocked.initial (Describes p) u c

theorem describes_of_call (hs : Supplied p s) {l : Line} {body : List Node}
    (h : calledBody l s = .ok body) :
    ∃ word, l.paramWords = [word] ∧ Describes p (Text.lower word) body :=
  Stocked.of_call hs h

theorem invariant (p : Program) : Invariant (fun n => Occurs n p) (Supplied p) := by
  refine Stocked.invariant (P := Describes p) ?_ ?_ ?_
  · intro opener body closer word hblock hword
    exact ⟨opener, closer, word, hblock, hword, rfl⟩
  · intro opener body closer hblock n hn
    exact hblock.of_body hn
  · rintro name body ⟨_, _, _, hblock, -⟩ n hn
    exact hblock.of_body hn

end Supplied

end ProseScript.Run
