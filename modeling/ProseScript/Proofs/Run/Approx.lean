import ProseScript.Proofs.Run.Outcome

/-!
Runs that end alike. An unfinished run may still end in any way, so it approximates every other run.
Main statement: when the steps of one repetition approximate those of another, so does the
repetition itself, if its limit is not the higher one.
-/

namespace ProseScript.Outcome

variable {σ τ : Type}

/-- Both runs have ended: in related states, or with one fault or one crash after the same displayed
texts. -/
inductive Alike (R : σ → τ → Prop) : Outcome σ → Outcome τ → Prop
  | finished {s : σ} {t : τ} (h : R s t) : Alike R (.finished s) (.finished t)
  | failed (fault : Fault) (shown : Array String) :
      Alike R (.failed fault shown) (.failed fault shown)
  | crashed (crash : Crash) (shown : Array String) :
      Alike R (.crashed crash shown) (.crashed crash shown)

def Approx (R : σ → τ → Prop) (o : Outcome σ) (o' : Outcome τ) : Prop :=
  o = .unfinished ∨ Alike R o o'

namespace Alike

variable {R : σ → τ → Prop} {o : Outcome σ} {o' : Outcome τ}

theorem right_ne_unfinished (h : Alike R o o') : o' ≠ .unfinished := by
  cases h <;> simp

theorem symm {R : σ → σ → Prop} {o o' : Outcome σ} (h : Alike R o o')
    (hsymm : ∀ s t, R s t → R t s) : Alike R o' o := by
  cases h with
  | finished hst => exact .finished (hsymm _ _ hst)
  | failed fault shown => exact .failed fault shown
  | crashed crash shown => exact .crashed crash shown

theorem mono {S : σ → τ → Prop} (h : Alike R o o') (hRS : ∀ s t, R s t → S s t) : Alike S o o' := by
  cases h with
  | finished hst => exact .finished (hRS _ _ hst)
  | failed fault shown => exact .failed fault shown
  | crashed crash shown => exact .crashed crash shown

theorem trans {R : σ → σ → Prop} {o₁ o₂ o₃ : Outcome σ} (h₁₂ : Alike R o₁ o₂)
    (h₂₃ : Alike R o₂ o₃) (htrans : ∀ s t u, R s t → R t u → R s u) : Alike R o₁ o₃ := by
  cases h₁₂ with
  | finished hst =>
    cases h₂₃ with
    | finished htu => exact .finished (htrans _ _ _ hst htu)
  | failed fault shown => exact h₂₃
  | crashed crash shown => exact h₂₃

end Alike

namespace Approx

variable {R : σ → σ → Prop}

theorem alike {o o' : Outcome σ} (h : Approx R o o') (hended : o ≠ .unfinished) : Alike R o o' :=
  h.resolve_left hended

theorem and_left {P : σ → Prop} {o o' : Outcome σ} (h : Approx R o o')
    (hP : ∀ s, o = .finished s → P s) : Approx (fun s t => R s t ∧ P s) o o' := by
  obtain rfl | h := h
  · exact .inl rfl
  cases h with
  | finished hst => exact .inr (.finished ⟨hst, hP _ rfl⟩)
  | failed fault shown => exact .inr (.failed fault shown)
  | crashed crash shown => exact .inr (.crashed crash shown)

theorem refl (hrefl : ∀ s, R s s) (o : Outcome σ) : Approx R o o := by
  cases o with
  | finished s => exact .inr (.finished (hrefl s))
  | failed fault shown => exact .inr (.failed fault shown)
  | crashed crash shown => exact .inr (.crashed crash shown)
  | unfinished => exact .inl rfl

theorem bind {S : τ → τ → Prop} {o o' : Outcome σ} {f g : σ → Outcome τ} (h : Approx R o o')
    (hfg : ∀ s t, R s t → Approx S (f s) (g t)) : Approx S (o.bind f) (o'.bind g) := by
  obtain rfl | h := h
  · exact .inl rfl
  cases h with
  | finished hst => exact hfg _ _ hst
  | failed fault shown => exact .inr (.failed fault shown)
  | crashed crash shown => exact .inr (.crashed crash shown)

theorem reached {measure : σ → Nat} {step step' : σ → Outcome σ} {limit limit' stop progress : Nat}
    (hstop : stop ≤ progress) {s t : σ} (h : R s t) :
    Approx R (untilReached measure stop step limit progress s)
      (untilReached measure stop step' limit' progress t) := by
  rw [untilReached_of_le hstop, untilReached_of_le hstop]
  exact .inr (.finished h)

variable {step step' : σ → Outcome σ} (hstep : ∀ s t, R s t → Approx R (step s) (step' t))
include hstep

theorem times (n : Nat) {s t : σ} (h : R s t) :
    Approx R (Outcome.times step n s) (Outcome.times step' n t) := by
  induction n generalizing s t with
  | zero => exact .inr (.finished h)
  | succ n ih =>
    rw [times_succ, times_succ]
    exact (hstep s t h).bind fun _ _ h => ih h

-- The limit bounds the passes, so the induction is on the smaller one.
theorem untilReached {measure : σ → Nat} (hmeasure : ∀ s t, R s t → measure s = measure t)
    {limit limit' : Nat} (hle : limit ≤ limit') (stop progress : Nat) {s t : σ} (h : R s t) :
    Approx R (Outcome.untilReached measure stop step limit progress s)
      (Outcome.untilReached measure stop step' limit' progress t) := by
  by_cases hbelow : progress < stop
  · induction limit generalizing limit' progress s t with
    | zero => exact .inl (untilReached_zero hbelow s)
    | succ limit ih =>
      obtain ⟨limit', rfl⟩ : ∃ k, limit' = k + 1 := ⟨limit' - 1, by omega⟩
      rw [untilReached_succ hbelow, untilReached_succ hbelow]
      refine (hstep s t h).bind fun s t h => ?_
      rw [hmeasure s t h]
      by_cases hbelow' : measure t < stop
      · exact ih (by omega) (measure t) h hbelow'
      · exact reached (by omega) h
  · exact reached (by omega) h

theorem repeated (counting : Counting) {measure : σ → Nat}
    (hmeasure : ∀ s t, R s t → measure s = measure t) {limit limit' : Nat} (hle : limit ≤ limit')
    (progress stop : Nat) {s t : σ} (h : R s t) :
    Approx R (Outcome.repeated counting measure limit step progress stop s)
      (Outcome.repeated counting measure limit' step' progress stop t) := by
  cases counting with
  | cycles => exact times hstep (stop - progress) h
  | words => exact untilReached hstep hmeasure hle stop progress h

end Approx

end ProseScript.Outcome
