import ProseScript.Proofs.Run.Approx

/-!
Runs side by side under one limit. Main statement: when the steps of two repetitions end alike, or
neither ends, the same holds of the repetitions.
-/

namespace ProseScript.Outcome

variable {σ τ σ' τ' : Type}

/-- The runs have ended alike, or neither has ended. -/
inductive Parallel (R : σ → τ → Prop) : Outcome σ → Outcome τ → Prop
  | ended {o : Outcome σ} {o' : Outcome τ} (h : Alike R o o') : Parallel R o o'
  | unfinished : Parallel R .unfinished .unfinished

namespace Parallel

variable {R : σ → τ → Prop} {o : Outcome σ} {o' : Outcome τ}

theorem finished {s : σ} {t : τ} (h : R s t) : Parallel R (.finished s) (.finished t) :=
  .ended (.finished h)

theorem failed (fault : Fault) (shown : Array String) :
    Parallel R (.failed fault shown) (.failed fault shown) :=
  .ended (.failed fault shown)

theorem crashed (crash : Crash) (shown : Array String) :
    Parallel R (.crashed crash shown) (.crashed crash shown) :=
  .ended (.crashed crash shown)

theorem imp {S : σ → τ → Prop} (h : Parallel R o o')
    (hRS : ∀ s t, o = .finished s → R s t → S s t) : Parallel S o o' := by
  cases h with
  | ended h =>
    cases h with
    | finished hst => exact .finished (hRS _ _ rfl hst)
    | failed fault shown => exact .failed fault shown
    | crashed crash shown => exact .crashed crash shown
  | unfinished => exact .unfinished

theorem bind {S : σ' → τ' → Prop} {f : σ → Outcome σ'} {g : τ → Outcome τ'} (h : Parallel R o o')
    (hfg : ∀ s t, R s t → Parallel S (f s) (g t)) : Parallel S (o.bind f) (o'.bind g) := by
  cases h with
  | ended h =>
    cases h with
    | finished hst => exact hfg _ _ hst
    | failed fault shown => exact .failed fault shown
    | crashed crash shown => exact .crashed crash shown
  | unfinished => exact .unfinished

/-- One computation succeeds where the other does, with related results, or both give one fault. -/
theorem ofExcept_map {x : Except Fault σ} {f : σ → τ} (shown : Array String)
    (h : ∀ s, x = .ok s → R s (f s)) :
    Parallel R (ofExcept shown x) (ofExcept shown (x.map f)) := by
  cases x with
  | ok s => exact .finished (h s rfl)
  | error fault => exact .failed fault shown

theorem checked_map {x : Except Fault σ} {f : σ → τ} (crash : Option Crash) (shown : Array String)
    (h : ∀ s, x = .ok s → R s (f s)) :
    Parallel R (checked crash shown x) (checked crash shown (x.map f)) := by
  cases crash with
  | some crash => exact .crashed crash shown
  | none => exact ofExcept_map shown h

variable {step : σ → Outcome σ} {step' : τ → Outcome τ}
  (hstep : ∀ s t, R s t → Parallel R (step s) (step' t))
include hstep

theorem times (n : Nat) {s : σ} {t : τ} (h : R s t) :
    Parallel R (Outcome.times step n s) (Outcome.times step' n t) := by
  induction n generalizing s t with
  | zero => exact .finished h
  | succ n ih =>
    rw [times_succ, times_succ]
    exact (hstep s t h).bind fun _ _ h => ih h

theorem untilReached {measure : σ → Nat} {measure' : τ → Nat}
    (hmeasure : ∀ s t, R s t → measure s = measure' t) (limit stop progress : Nat) {s : σ} {t : τ}
    (h : R s t) :
    Parallel R (Outcome.untilReached measure stop step limit progress s)
      (Outcome.untilReached measure' stop step' limit progress t) := by
  by_cases hbelow : progress < stop
  · induction limit generalizing progress s t with
    | zero =>
      rw [untilReached_zero hbelow, untilReached_zero hbelow]
      exact .unfinished
    | succ limit ih =>
      rw [untilReached_succ hbelow, untilReached_succ hbelow]
      refine (hstep s t h).bind fun s t h => ?_
      rw [hmeasure s t h]
      by_cases hbelow' : measure' t < stop
      · exact ih (measure' t) h hbelow'
      · rw [untilReached_of_le (by omega), untilReached_of_le (by omega)]
        exact .finished h
  · rw [untilReached_of_le (by omega), untilReached_of_le (by omega)]
    exact .finished h

theorem repeated (counting : Counting) {measure : σ → Nat} {measure' : τ → Nat}
    (hmeasure : ∀ s t, R s t → measure s = measure' t) (limit progress stop : Nat) {s : σ} {t : τ}
    (h : R s t) :
    Parallel R (Outcome.repeated counting measure limit step progress stop s)
      (Outcome.repeated counting measure' limit step' progress stop t) := by
  cases counting with
  | cycles => exact times hstep (stop - progress) h
  | words => exact untilReached hstep hmeasure limit stop progress h

end Parallel

end ProseScript.Outcome
