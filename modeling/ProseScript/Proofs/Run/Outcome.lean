import ProseScript.Run.Outcome

/-!
Repetition and its outcomes. Main statement: a repetition that finishes has taken its step some
number of times, whatever it counts, and one that fails or crashes has done so before the step that
does.
-/

namespace ProseScript.Outcome

variable {σ τ : Type}

/-- The state that a run finished in. -/
def last? : Outcome σ → Option σ
  | finished s => some s
  | failed _ _ => none
  | crashed _ _ => none
  | unfinished => none

theorem last?_eq_some_iff {o : Outcome σ} {s : σ} : o.last? = some s ↔ o = .finished s := by
  cases o <;> simp [last?]

theorem exists_finished {o : Outcome σ} (h : o.last?.isSome = true) : ∃ s, o = .finished s := by
  cases o with
  | finished s => exact ⟨s, rfl⟩
  | failed fault shown => simp [last?] at h
  | crashed crash shown => simp [last?] at h
  | unfinished => simp [last?] at h

/-- The fault that a run ended with. -/
def fault? : Outcome σ → Option Fault
  | finished _ => none
  | failed fault _ => some fault
  | crashed _ _ => none
  | unfinished => none

theorem exists_failed {o : Outcome σ} {fault : Fault} (h : o.fault? = some fault) :
    ∃ shown, o = .failed fault shown := by
  cases o with
  | finished s => simp [fault?] at h
  | failed f shown => exact ⟨shown, by rw [Option.some.inj h]⟩
  | crashed crash shown => simp [fault?] at h
  | unfinished => simp [fault?] at h

theorem checked_eq_finished_iff {crash : Option Crash} {shown : Array String} {x : Except Fault σ}
    {s : σ} : checked crash shown x = .finished s ↔ crash = none ∧ x = .ok s := by
  cases crash <;> cases x <;> simp [checked, ofExcept]

theorem ofExcept_eq_finished_iff {shown : Array String} {x : Except Fault σ} {s : σ} :
    ofExcept shown x = .finished s ↔ x = .ok s := by
  cases x <;> simp [ofExcept]

theorem bind_eq_finished_iff {o : Outcome σ} {f : σ → Outcome τ} {t : τ} :
    o.bind f = .finished t ↔ ∃ s, o = .finished s ∧ f s = .finished t := by
  cases o <;> simp [bind]

/-- How a run stops that does not finish. -/
inductive Stop where
  | fault (f : Fault)
  | crash (c : Crash)

def stopped (stop : Stop) (shown : Array String) : Outcome σ :=
  match stop with
  | .fault f => failed f shown
  | .crash c => crashed c shown

theorem finished_ne_stopped (s : σ) (stop : Stop) (shown : Array String) :
    finished s ≠ stopped stop shown := by
  cases stop <;> simp [stopped]

theorem unfinished_ne_stopped (stop : Stop) (shown : Array String) :
    (unfinished : Outcome σ) ≠ stopped stop shown := by
  cases stop <;> simp [stopped]

theorem eq_of_failed_eq_stopped {f : Fault} {stop : Stop} {shown shown' : Array String}
    (h : (failed f shown : Outcome σ) = stopped stop shown') : stop = .fault f := by
  cases stop with
  | fault f' => rw [(failed.inj h).1]
  | crash c => simp [stopped] at h

theorem eq_of_crashed_eq_stopped {c : Crash} {stop : Stop} {shown shown' : Array String}
    (h : (crashed c shown : Outcome σ) = stopped stop shown') : stop = .crash c := by
  cases stop with
  | fault f => simp [stopped] at h
  | crash c' => rw [(crashed.inj h).1]

/-- A computation that is made unless it crashes stops a run by its crash or by its fault. -/
theorem cases_of_checked_stopped {crash : Option Crash} {shown shown' : Array String}
    {x : Except Fault σ} {stop : Stop} (h : checked crash shown x = stopped stop shown') :
    (∃ c, crash = some c ∧ stop = .crash c) ∨
      ∃ f, crash = none ∧ x = .error f ∧ stop = .fault f := by
  cases crash with
  | some c => exact .inl ⟨c, rfl, eq_of_crashed_eq_stopped h⟩
  | none =>
    cases x with
    | ok s => exact absurd h (finished_ne_stopped s stop shown')
    | error f => exact .inr ⟨f, rfl, rfl, eq_of_failed_eq_stopped h⟩

theorem bind_eq_stopped_iff {o : Outcome σ} {g : σ → Outcome τ} {stop : Stop}
    {shown : Array String} : o.bind g = stopped stop shown ↔
      o = stopped stop shown ∨ ∃ s, o = .finished s ∧ g s = stopped stop shown := by
  cases stop <;> cases o <;> simp [bind, stopped]

theorem bind_eq_failed_iff {o : Outcome σ} {g : σ → Outcome τ} {f : Fault} {shown : Array String} :
    o.bind g = .failed f shown ↔
      o = .failed f shown ∨ ∃ s, o = .finished s ∧ g s = .failed f shown := by
  cases o <;> simp [bind]

/-- What every step relates, steps in a row relate. -/
theorem rel_of_times {R : σ → σ → Prop} (hrefl : ∀ s, R s s)
    (htrans : ∀ s t u, R s t → R t u → R s u) {step : σ → Outcome σ}
    (hstep : ∀ s t, step s = .finished t → R s t) {n : Nat} {s t : σ}
    (h : times step n s = .finished t) : R s t := by
  induction n generalizing s with
  | zero =>
    have hst : s = t := finished.inj h
    exact hst ▸ hrefl s
  | succ n ih =>
    rw [times_succ] at h
    obtain ⟨u, hu, hrest⟩ := bind_eq_finished_iff.1 h
    exact htrans s u t (hstep s u hu) (ih hrest)

/-- Steps in a row stop at one of them, after those before it. -/
theorem exists_stopped_of_times {step : σ → Outcome σ} {stop : Stop} {shown : Array String} {n : Nat}
    {s : σ} (h : times step n s = stopped stop shown) :
    ∃ k t, times step k s = .finished t ∧ step t = stopped stop shown := by
  induction n generalizing s with
  | zero => exact absurd h (finished_ne_stopped s stop shown)
  | succ n ih =>
    rw [times_succ] at h
    rcases bind_eq_stopped_iff.1 h with hfirst | ⟨u, hu, hrest⟩
    · exact ⟨0, s, rfl, hfirst⟩
    · obtain ⟨k, t, hk, hstep⟩ := ih hrest
      refine ⟨k + 1, t, ?_, hstep⟩
      rw [times_succ, hu]
      exact hk

section UntilReached

variable {measure : σ → Nat} {stop limit progress : Nat} {step : σ → Outcome σ}

theorem untilReached_of_le (h : stop ≤ progress) (s : σ) :
    untilReached measure stop step limit progress s = .finished s := by
  have hnot : ¬ progress < stop := by omega
  cases limit <;> simp [untilReached, hnot]

theorem untilReached_succ (h : progress < stop) (s : σ) :
    untilReached measure stop step (limit + 1) progress s =
      (step s).bind fun t => untilReached measure stop step limit (measure t) t := by
  rw [untilReached, if_pos h]
  rfl

theorem untilReached_zero (h : progress < stop) (s : σ) :
    untilReached measure stop step 0 progress s = .unfinished := by
  rw [untilReached, if_pos h]

theorem exists_times_of_untilReached {s t : σ}
    (h : untilReached measure stop step limit progress s = .finished t) :
    ∃ k, times step k s = .finished t := by
  induction limit generalizing progress s with
  | zero =>
    by_cases hbelow : progress < stop
    · simp [untilReached_zero hbelow] at h
    · exact ⟨0, by rwa [untilReached_of_le (by omega)] at h⟩
  | succ limit ih =>
    by_cases hbelow : progress < stop
    · rw [untilReached_succ hbelow] at h
      obtain ⟨u, hu, hrest⟩ := bind_eq_finished_iff.1 h
      obtain ⟨k, hk⟩ := ih hrest
      refine ⟨k + 1, ?_⟩
      rw [times_succ, hu]
      exact hk
    · exact ⟨0, by rwa [untilReached_of_le (by omega)] at h⟩

theorem exists_stopped_of_untilReached {halt : Stop} {shown : Array String} {s : σ}
    (h : untilReached measure stop step limit progress s = stopped halt shown) :
    ∃ k t, times step k s = .finished t ∧ step t = stopped halt shown := by
  have hreached {limit progress : Nat} {s : σ} (hle : stop ≤ progress) :
      untilReached measure stop step limit progress s ≠ stopped halt shown := by
    rw [untilReached_of_le hle]
    exact finished_ne_stopped s halt shown
  by_cases hbelow : progress < stop
  · induction limit generalizing progress s with
    | zero =>
      rw [untilReached_zero hbelow] at h
      exact absurd h (unfinished_ne_stopped halt shown)
    | succ limit ih =>
      rw [untilReached_succ hbelow] at h
      rcases bind_eq_stopped_iff.1 h with hfirst | ⟨u, hu, hrest⟩
      · exact ⟨0, s, rfl, hfirst⟩
      by_cases hbelow' : measure u < stop
      · obtain ⟨k, t, hk, hstep⟩ := ih hrest hbelow'
        refine ⟨k + 1, t, ?_, hstep⟩
        rw [times_succ, hu]
        exact hk
      · exact absurd hrest (hreached (Nat.le_of_not_lt hbelow'))
  · exact absurd h (hreached (Nat.le_of_not_lt hbelow))

end UntilReached

theorem exists_times_of_repeated {counting : Counting} {measure : σ → Nat}
    {limit progress stop : Nat} {step : σ → Outcome σ} {s t : σ}
    (h : repeated counting measure limit step progress stop s = .finished t) :
    ∃ k, times step k s = .finished t := by
  cases counting with
  | cycles => exact ⟨stop - progress, h⟩
  | words => exact exists_times_of_untilReached h

/-- A repetition that has not reached its end takes its step at least once. -/
theorem exists_first_of_repeated {counting : Counting} {measure : σ → Nat}
    {limit progress stop : Nat} {step : σ → Outcome σ} {s t : σ} (hbelow : progress < stop)
    (h : repeated counting measure limit step progress stop s = .finished t) :
    ∃ u k, step s = .finished u ∧ times step k u = .finished t := by
  cases counting with
  | cycles =>
    obtain ⟨k, hk⟩ : ∃ k, stop - progress = k + 1 := ⟨stop - progress - 1, by omega⟩
    rw [repeated, hk, times_succ] at h
    obtain ⟨u, hu, hrest⟩ := bind_eq_finished_iff.1 h
    exact ⟨u, k, hu, hrest⟩
  | words =>
    cases limit with
    | zero => simp [repeated, untilReached_zero hbelow] at h
    | succ limit =>
      rw [repeated, untilReached_succ hbelow] at h
      obtain ⟨u, hu, hrest⟩ := bind_eq_finished_iff.1 h
      obtain ⟨k, hk⟩ := exists_times_of_untilReached hrest
      exact ⟨u, k, hu, hk⟩

theorem exists_stopped_of_repeated {counting : Counting} {measure : σ → Nat}
    {limit progress stop : Nat} {step : σ → Outcome σ} {halt : Stop} {shown : Array String} {s : σ}
    (h : repeated counting measure limit step progress stop s = stopped halt shown) :
    ∃ k t, times step k s = .finished t ∧ step t = stopped halt shown := by
  cases counting with
  | cycles => exact exists_stopped_of_times h
  | words => exact exists_stopped_of_untilReached h

theorem exists_failed_of_repeated {counting : Counting} {measure : σ → Nat}
    {limit progress stop : Nat} {step : σ → Outcome σ} {f : Fault} {shown : Array String} {s : σ}
    (h : repeated counting measure limit step progress stop s = .failed f shown) :
    ∃ k t, times step k s = .finished t ∧ step t = .failed f shown :=
  @exists_stopped_of_repeated _ counting measure limit progress stop step (.fault f) shown s h

end ProseScript.Outcome
