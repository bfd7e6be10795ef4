import ProseScript.Amount
import ProseScript.Fault

/-!
Outcomes of bounded runs, and repetition. A run that meets its bound is unfinished, which is
neither success nor failure.
-/

namespace ProseScript

/-- What breaks a run off that has no fault in its script. Sums of machine words are checked, as they
are in a default build: one that does not fit breaks the run off and is never taken for a smaller
number. -/
inductive Crash where
  /-- A sum does not fit in its word. -/
  | overflow
  /-- A list is to have more room than there are addresses. -/
  | capacity
  deriving DecidableEq, Repr

def Crash.message : Crash → String
  | overflow => "attempt to add with overflow"
  | capacity => "capacity overflow"

inductive Outcome (σ : Type) where
  | finished (s : σ)
  /-- A fault, with the texts displayed before it. -/
  | failed (fault : Fault) (shown : Array String)
  /-- A crash, with the texts displayed before it. -/
  | crashed (crash : Crash) (shown : Array String)
  | unfinished

namespace Outcome

variable {σ τ : Type}

def bind (o : Outcome σ) (f : σ → Outcome τ) : Outcome τ :=
  match o with
  | finished s => f s
  | failed fault shown => failed fault shown
  | crashed crash shown => crashed crash shown
  | unfinished => unfinished

def ofExcept (shown : Array String) : Except Fault σ → Outcome σ
  | .ok s => finished s
  | .error fault => failed fault shown

/-- The result of a computation, which is only begun once a crash is ruled out. -/
@[macro_inline]
def checked (crash : Option Crash) (shown : Array String) (x : Except Fault σ) : Outcome σ :=
  match crash with
  | some crash => crashed crash shown
  | none => ofExcept shown x

/-- Takes a step a fixed number of times. -/
def times (step : σ → Outcome σ) : Nat → σ → Outcome σ
  | 0, s => finished s
  | n + 1, s =>
      match step s with
      | finished s => times step n s
      | failed fault shown => failed fault shown
      | crashed crash shown => crashed crash shown
      | unfinished => unfinished

/-- Takes a step while the progress is below `stop`, at most `limit` times. The progress is measured
again after each step. -/
def untilReached (measure : σ → Nat) (stop : Nat) (step : σ → Outcome σ) : Nat → Nat → σ → Outcome σ
  | 0, progress, s => if progress < stop then unfinished else finished s
  | limit + 1, progress, s =>
      if progress < stop then
        match step s with
        | finished s => untilReached measure stop step limit (measure s) s
        | failed fault shown => failed fault shown
        | crashed crash shown => crashed crash shown
        | unfinished => unfinished
      else finished s

/-- Repeats a step from `progress` to `stop`, counting either the steps or what is measured. -/
def repeated (counting : Counting) (measure : σ → Nat) (limit : Nat) (step : σ → Outcome σ)
    (progress stop : Nat) (s : σ) : Outcome σ :=
  match counting with
  | .cycles => times step (stop - progress) s
  | .words => untilReached measure stop step limit progress s

theorem times_succ (step : σ → Outcome σ) (n : Nat) (s : σ) :
    times step (n + 1) s = (step s).bind (times step n) := rfl

/-- Steps in a row are the first ones followed by the others. -/
theorem times_add (step : σ → Outcome σ) (m n : Nat) (s : σ) :
    times step (m + n) s = (times step m s).bind (times step n) := by
  induction m generalizing s with
  | zero => simp [times, bind]
  | succ m ih =>
    rw [show m + 1 + n = m + n + 1 by omega, times_succ, times_succ]
    cases h : step s with
    | finished t => simpa [bind] using ih t
    | failed fault shown => rfl
    | crashed crash shown => rfl
    | unfinished => rfl

end Outcome

end ProseScript
