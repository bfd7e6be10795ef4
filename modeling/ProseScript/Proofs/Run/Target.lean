import ProseScript.Proofs.Run.Frame

/-!
Repetition up to a number of words. Main statement: a sequence that is run until the output has
enough words is run the least number of times that gives so many, and a `WRITE` line that asks for
words writes the fewest sentences that hold them. A target out of reach of 64 bits is a crash.
-/

namespace ProseScript

namespace Outcome

variable {σ : Type}

/-- After `k` steps, which end in `t`, the measure has reached `stop`; after fewer it has not. -/
structure Least (measure : σ → Nat) (stop : Nat) (step : σ → Outcome σ) (k : Nat) (s t : σ) :
    Prop where
  last : times step k s = .finished t
  reached : stop ≤ measure t
  below : ∀ j < k, ∃ u, times step j s = .finished u ∧ measure u < stop

theorem times_add_eq_finished_iff {step : σ → Outcome σ} {m n : Nat} {s t : σ} :
    times step (m + n) s = .finished t ↔
      ∃ u, times step m s = .finished u ∧ times step n u = .finished t := by
  rw [times_add, bind_eq_finished_iff]

variable {measure : σ → Nat} {stop : Nat} {step : σ → Outcome σ}

namespace Least

theorem stay {limit : Nat} {s t : σ} (hreached : stop ≤ measure s)
    (h : untilReached measure stop step limit (measure s) s = .finished t) :
    Least measure stop step 0 s t := by
  rw [untilReached_of_le hreached] at h
  have hst : s = t := finished.inj h
  exact ⟨h, hst ▸ hreached, by simp⟩

theorem cons {k : Nat} {s u t : σ} (hbelow : measure s < stop) (hu : step s = .finished u)
    (h : Least measure stop step k u t) : Least measure stop step (k + 1) s t := by
  have hnext (j : Nat) : times step (j + 1) s = times step j u := by
    rw [times_succ, hu]
    rfl
  refine ⟨(hnext k).trans h.last, h.reached, ?_⟩
  intro j hj
  cases j with
  | zero => exact ⟨s, rfl, hbelow⟩
  | succ j =>
    obtain ⟨v, hv, hlow⟩ := h.below j (by omega)
    exact ⟨v, (hnext j).trans hv, hlow⟩

end Least

/-- A repetition that measures its progress stops as soon as it may. -/
theorem least_of_untilReached {limit : Nat} {s t : σ}
    (h : untilReached measure stop step limit (measure s) s = .finished t) :
    ∃ k, Least measure stop step k s t := by
  -- After a step the progress is the measure itself, so the rest is a repetition of the same kind.
  induction limit generalizing s with
  | zero =>
    by_cases hbelow : measure s < stop
    · simp [untilReached_zero hbelow] at h
    · exact ⟨0, .stay (by omega) h⟩
  | succ limit ih =>
    by_cases hbelow : measure s < stop
    · rw [untilReached_succ hbelow] at h
      obtain ⟨u, hu, hrest⟩ := bind_eq_finished_iff.1 h
      obtain ⟨k, hk⟩ := ih hrest
      exact ⟨k + 1, hk.cons hbelow hu⟩
    · exact ⟨0, .stay (by omega) h⟩

namespace Least

variable {k : Nat} {s t : σ} (h : Least measure stop step k s t)
include h

theorem pos (hbelow : measure s < stop) : 1 ≤ k := by
  cases k with
  | zero =>
    have hst : s = t := finished.inj h.last
    have hreached := h.reached
    rw [← hst] at hreached
    omega
  | succ k => omega

/-- Steps that all raise the measure are at most as many as there is to go. -/
theorem le_of_rising
    (hrise : ∀ j < k, ∀ u v, times step j s = .finished u → times step (j + 1) s = .finished v →
      measure u < measure v) : k ≤ stop - measure s := by
  -- Each step adds at least one, and before the last step there is something to go.
  have hgrown (j : Nat) (hj : j < k) (u : σ) (hu : times step j s = .finished u) :
      measure s + j ≤ measure u := by
    induction j generalizing u with
    | zero =>
      have hsu : s = u := finished.inj hu
      rw [hsu]
      omega
    | succ j ih =>
      obtain ⟨v, hv, -⟩ := times_add_eq_finished_iff.1 hu
      have hbefore := ih (by omega) v hv
      have hstep := hrise j (by omega) v u hv hu
      omega
  cases k with
  | zero => omega
  | succ k =>
    obtain ⟨u, hu, hlow⟩ := h.below k (by omega)
    have hu' := hgrown k (by omega) u hu
    omega

end Least

end Outcome

namespace Run

open Outcome (Least)

/-- One step of writing appends one sentence and counts its words. -/
theorem writeOne_appends {l : Line} {p : WritePlan} {x y : Nat × State}
    (h : writeOne l p x = .finished y) :
    ∃ sentence, y.2.output.toList = x.2.output.toList ++ [sentence] ∧
      y.2.wordCount = x.2.wordCount + WordCount.ofSentence sentence := by
  obtain ⟨i, s⟩ := x
  simp only [writeOne] at h
  split at h
  · simp at h
  · rw [← Outcome.finished.inj h, State.warnAll_eq]
    exact ⟨_, by simp [State.pushSentence], rfl⟩

/-- The second state has written the sentences `added` since the first. -/
structure Appended (added : List String) (s t : State) : Prop where
  output : t.output.toList = s.output.toList ++ added
  wordCount : t.wordCount = s.wordCount + WordCount.ofOutput added

theorem times_writeOne_appends {l : Line} {p : WritePlan} {k : Nat} {x y : Nat × State}
    (h : Outcome.times (writeOne l p) k x = .finished y) :
    ∃ added, added.length = k ∧ Appended added x.2 y.2 := by
  induction k generalizing x with
  | zero =>
    have hxy : x = y := Outcome.finished.inj h
    exact ⟨[], rfl, by simp [hxy], by simp [hxy, WordCount.ofOutput]⟩
  | succ k ih =>
    rw [Outcome.times_succ] at h
    obtain ⟨z, hz, hrest⟩ := Outcome.bind_eq_finished_iff.1 h
    obtain ⟨sentence, houtput, hcount⟩ := writeOne_appends hz
    obtain ⟨added, hlength, hadded⟩ := ih hrest
    refine ⟨sentence :: added, by simp [hlength], ?_, ?_⟩
    · rw [hadded.output, houtput, List.append_assoc]
      rfl
    · rw [hadded.wordCount, hcount, WordCount.ofOutput]
      omega

theorem appended_take {l : Line} {p : WritePlan} {j k : Nat} {x y z : Nat × State}
    {added : List String} (hk : Outcome.times (writeOne l p) k x = .finished z)
    (hadded : Appended added x.2 z.2) (hle : j ≤ k)
    (hj : Outcome.times (writeOne l p) j x = .finished y) : Appended (added.take j) x.2 y.2 := by
  -- What was written is cut where the first steps end.
  obtain ⟨d, rfl⟩ : ∃ d, k = j + d := ⟨k - j, by omega⟩
  obtain ⟨y', hy', hrest⟩ := Outcome.times_add_eq_finished_iff.1 hk
  have hyy' : y = y' := Outcome.finished.inj (hj.symm.trans hy')
  subst hyy'
  obtain ⟨front, hlength, hfront⟩ := times_writeOne_appends hj
  obtain ⟨back, -, hback⟩ := times_writeOne_appends hrest
  have hparts : x.2.output.toList ++ added = x.2.output.toList ++ (front ++ back) := by
    rw [← hadded.output, hback.output, hfront.output, List.append_assoc]
  have htake : added.take j = front := by
    rw [List.append_cancel_left hparts, ← hlength, List.take_left]
  exact htake ▸ hfront

/-- A finished `WRITE` line had a plan, and if that counts words it took the fewest steps. -/
theorem least_of_write {limit : Nat} {l : Line} {s t : State} (h : write limit l s = .finished t) :
    ∃ p chance, writePlan l s = .ok (p, chance) ∧
      (p.counting = .words → ∃ k index, Least (fun x : Nat × State => x.2.wordCount)
        (s.wordCount + p.amount) (writeOne l p) k (beginWriting p chance s) (index, t)) := by
  rcases cases_of_write limit l s with
    ⟨f, -, hf⟩ | ⟨p, chance, hplan, ⟨-, hcrash⟩ | ⟨start, stop, hspan, hrun⟩⟩
  · simp [hf] at h
  · simp [hcrash] at h
  · refine ⟨p, chance, hplan, ?_⟩
    intro hwords
    rw [hwords] at hspan hrun
    obtain ⟨-, rfl, rfl⟩ := Counting.span?_words_eq_some_iff.1 hspan
    rw [hrun] at h
    obtain ⟨⟨index, u⟩, hrun, hlast⟩ := Outcome.bind_eq_finished_iff.1 h
    obtain rfl : u = t := Outcome.finished.inj hlast
    have hleast : ∃ k, Least (fun x : Nat × State => x.2.wordCount) (s.wordCount + p.amount)
        (writeOne l p) k (beginWriting p chance s) (index, u) :=
      Outcome.least_of_untilReached hrun
    obtain ⟨k, hk⟩ := hleast
    exact ⟨k, index, hk⟩

/-- A `WRITE` line whose words would end beyond 64 bits crashes. -/
theorem write_out_of_reach (limit : Nat) {l : Line} {s : State} {p : WritePlan} {chance : Chance}
    (hplan : writePlan l s = .ok (p, chance)) (hwords : p.counting = .words)
    (hlarge : UInt64.size ≤ s.wordCount + p.amount) : write limit l s = .crashed .overflow s.shown := by
  have hspan : p.counting.span? s.wordCount p.amount = none := by
    rw [hwords]
    exact Counting.span?_words_eq_none_iff.2 hlarge
  simp only [write, hplan, hspan]

/-- So does a `LOOP` line. -/
theorem loop_out_of_reach (pass : State → Outcome State) (limit : Nat) {opener : Line} {s : State}
    {n : Nat} {chance : Chance} (htarget : loopTarget opener s = .ok (n, .words, chance))
    (hlarge : UInt64.size ≤ s.wordCount + n) :
    loop pass limit opener s = .crashed .overflow s.shown := by
  have hspan := Counting.span?_words_eq_none_iff.2 hlarge
  simp only [loop, htarget, hspan]

/-- Counting words stops as soon as it may. A sequence that is run up to `stop` words is run the
least number of times that gives them, which is no more than the words to go when every pass adds
one. A `WRITE` line that asks for words writes the fewest sentences that hold them. Neither a
`WRITE` nor a `LOOP` line goes on when the words would end beyond 64 bits. -/
theorem word_target_is_least :
    (∀ (limit : Nat) (ns : List Node) (s t : State) (stop : Nat), s.wordCount < stop →
      execute limit ns .words s.wordCount stop s = .finished t →
      ∃ k, 1 ≤ k ∧ execute limit ns .cycles 0 k s = .finished t ∧ stop ≤ t.wordCount ∧
        (∀ j < k, ∃ u, execute limit ns .cycles 0 j s = .finished u ∧ u.wordCount < stop) ∧
        ((∀ j < k, ∀ u v, execute limit ns .cycles 0 j s = .finished u →
            execute limit ns .cycles 0 (j + 1) s = .finished v → u.wordCount < v.wordCount) →
          k ≤ stop - s.wordCount)) ∧
    (∀ (limit : Nat) (l : Line) (s t : State), write limit l s = .finished t →
      ∃ p chance, writePlan l s = .ok (p, chance) ∧ (p.counting = .words →
        ∃ added index, Appended added s t ∧ s.wordCount + p.amount ≤ t.wordCount ∧
          Outcome.times (writeOne l p) added.length
            ((startIndex p chance).1, { s with chance := (startIndex p chance).2 }) =
              .finished (index, t) ∧
          (∀ j < added.length,
            s.wordCount + WordCount.ofOutput (added.take j) < s.wordCount + p.amount) ∧
          (p.amount = 0 → added = []))) ∧
    (∀ (limit : Nat) (l : Line) (s : State) (p : WritePlan) (chance : Chance),
      writePlan l s = .ok (p, chance) → p.counting = .words →
      UInt64.size ≤ s.wordCount + p.amount → write limit l s = .crashed .overflow s.shown) ∧
    ∀ (pass : State → Outcome State) (limit : Nat) (opener : Line) (s : State) (n : Nat)
      (chance : Chance), loopTarget opener s = .ok (n, .words, chance) →
      UInt64.size ≤ s.wordCount + n → loop pass limit opener s = .crashed .overflow s.shown := by
  refine ⟨?_, ?_, ?_, ?_⟩
  · intro limit ns s t stop hbelow hrun
    obtain ⟨k, hk⟩ := Outcome.least_of_untilReached hrun
    exact ⟨k, hk.pos hbelow, hk.last, hk.reached, hk.below, hk.le_of_rising⟩
  · intro limit l s t h
    obtain ⟨p, chance, hplan, hleast⟩ := least_of_write h
    refine ⟨p, chance, hplan, ?_⟩
    intro hwords
    obtain ⟨k, index, hk⟩ := hleast hwords
    obtain ⟨added, rfl, hadded⟩ := times_writeOne_appends hk.last
    have hfewer (j : Nat) (hj : j < added.length) :
        s.wordCount + WordCount.ofOutput (added.take j) < s.wordCount + p.amount := by
      obtain ⟨u, hu, hlow⟩ := hk.below j hj
      have hcount := (appended_take hk.last hadded (by omega) hu).wordCount
      exact hcount ▸ hlow
    refine ⟨added, index, ⟨hadded.output, hadded.wordCount⟩, hk.reached, hk.last, hfewer, ?_⟩
    intro hzero
    have hnone : ¬ 0 < added.length := by
      intro hsome
      have hlow := hfewer 0 hsome
      omega
    exact List.eq_nil_of_length_eq_zero (by omega)
  · intro limit l s p chance hplan hwords hlarge
    exact write_out_of_reach limit hplan hwords hlarge
  · intro pass limit opener s n chance htarget hlarge
    exact loop_out_of_reach pass limit htarget hlarge

/-- A folder of one noun and one sentence about it. -/
def catSetup : Setup where
  words := .ofEntries [("noun", ["cat"])]
  sentences := .ofEntries [("story", ["the _noun_ sat"])]
  genders := .standard
  format := .standard
  wordsAlias := "w"
  sentencesAlias := "s"

/-- Writes sentences of three words until there are four words more. -/
def catLine : Line := ⟨1, "WRITE story w 4W"⟩

/-- Writes until there are more words than 64 bits can count, if there are any before. -/
def endlessLine : Line := ⟨2, "WRITE story w 18446744073709551615W"⟩

/-- Two passes of two sentences each lead to seven words, and one pass does not. After three words a
line cannot ask for as many more as a word can hold. -/
theorem word_target_is_least_cat :
    let s := catSetup.initial ⟨fun _ => 0, 0⟩
    (∃ t k, execute 3 [.line catLine] .words 0 7 s = .finished t ∧ 1 ≤ k ∧
      execute 3 [.line catLine] .cycles 0 k s = .finished t ∧ 7 ≤ t.wordCount ∧
      ∀ j < k, ∃ u, execute 3 [.line catLine] .cycles 0 j s = .finished u ∧ u.wordCount < 7) ∧
    (∃ t p chance, write 3 catLine s = .finished t ∧ writePlan catLine s = .ok (p, chance) ∧
      p.counting = .words ∧ ∃ added, Appended added s t ∧ s.wordCount + p.amount ≤ t.wordCount ∧
        ∀ j < added.length,
          s.wordCount + WordCount.ofOutput (added.take j) < s.wordCount + p.amount) ∧
    write 3 endlessLine (s.pushSentence "The cat sat. ") = .crashed .overflow #[] := by
  intro s
  have hrun : (execute 3 [.line catLine] .words 0 7 s).last?.isSome = true := by decide +kernel
  have hwrite : (write 3 catLine s).last?.isSome = true := by decide +kernel
  obtain ⟨t, ht⟩ := Outcome.exists_finished hrun
  obtain ⟨t', ht'⟩ := Outcome.exists_finished hwrite
  refine ⟨?_, ?_, ?_⟩
  · have hbelow : s.wordCount < 7 := by decide
    obtain ⟨k, hpos, hcycles, hreached, hfewer, -⟩ :=
      word_target_is_least.1 3 [.line catLine] s t 7 hbelow ht
    exact ⟨t, k, ht, hpos, hcycles, hreached, hfewer⟩
  · obtain ⟨p, chance, hplan, hleast⟩ := word_target_is_least.2.1 3 catLine s t' ht'
    have hwords : p.counting = .words := by
      have hcounting : (writePlan catLine s).toOption.map (fun x => x.1.counting) =
          some .words := by
        decide +kernel
      rw [hplan] at hcounting
      exact Option.some.inj hcounting
    obtain ⟨added, _, hadded, hreached, -, hfewer, -⟩ := hleast hwords
    exact ⟨t', p, chance, ht', hplan, hwords, added, hadded, hreached, hfewer⟩
  · have hendless : (writePlan endlessLine (s.pushSentence "The cat sat. ")).toOption.map
        (fun x => (x.1.counting, x.1.amount)) = some (.words, 18446744073709551615) := by
      decide +kernel
    have hcount : (s.pushSentence "The cat sat. ").wordCount = 3 := by decide +kernel
    cases hplan : writePlan endlessLine (s.pushSentence "The cat sat. ") with
    | error f => simp [hplan, Except.toOption] at hendless
    | ok planned =>
      obtain ⟨p, chance⟩ := planned
      obtain ⟨hwords, hamount⟩ : p.counting = .words ∧ p.amount = 18446744073709551615 := by
        simpa [hplan, Except.toOption] using hendless
      refine word_target_is_least.2.2.1 3 endlessLine _ p chance hplan hwords ?_
      rw [hcount, hamount]
      decide

end Run

end ProseScript
