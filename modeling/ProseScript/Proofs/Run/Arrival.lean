import ProseScript.Proofs.Program.Marks
import ProseScript.Proofs.Run.Reach

/-!
The nodes that a run comes to. Main statement: a run that fails or crashes has come to a node that
does so by itself, before any node in its body or in a snippet is run for it.
-/

namespace ProseScript.Run

/-- The nodes that one pass over a sequence comes to, with the states it comes to them in, inside its
loops and calls too. -/
inductive Comes : Nat → List Node → State → Node → State → Prop
  | here (limit : Nat) (n : Node) (rest : List Node) (s : State) :
      Comes (limit + 1) (n :: rest) s n s
  | next {limit : Nat} {n m : Node} {rest : List Node} {s s' t : State}
      (hn : node (nodes limit) limit n s = .finished s') (ht : Comes (limit + 1) rest s' m t) :
      Comes (limit + 1) (n :: rest) s m t
  | pass {limit : Nat} {opener closer : Line} {body rest : List Node} {s s' t : State} {m : Node}
      {n k : Nat} {counting : Counting} {chance : Chance}
      (htarget : loopTarget opener { s with current := some opener } = .ok (n, counting, chance))
      (hs : Outcome.times (nodes limit body) k { s with current := some opener, chance } =
        .finished s')
      (ht : Comes limit body s' m t) :
      Comes (limit + 1) (.block .loop opener body closer :: rest) s m t
  | call {limit : Nat} {l : Line} {body rest : List Node} {s t : State} {m : Node}
      (hl : Command.ofLine? l = some .call)
      (hbody : calledBody l { s with current := some l } = .ok body)
      (ht : Comes limit body { s with current := some l } m t) :
      Comes (limit + 1) (.line l :: rest) s m t

/-- The fault of a node that was begun in a state, when no other node is to blame. -/
inductive FailsItself : Node → State → Fault → Prop
  | unknown {l : Line} {s : State} (hidle : l.isIdle = false) (hl : Command.ofLine? l = none) :
      FailsItself (.line l) s (.unknownCommand l)
  | write {l : Line} {s : State} {f : Fault} {limit : Nat} {shown : Array String}
      (hl : Command.ofLine? l = some .write) (h : write limit l s = .failed f shown) :
      FailsItself (.line l) s f
  | call {l : Line} {s : State} {f : Fault} (hl : Command.ofLine? l = some .call)
      (h : calledBody l s = .error f) : FailsItself (.line l) s f
  | simple {l : Line} {s : State} {f : Fault} {c : Command} (hl : Command.ofLine? l = some c)
      (hwrite : c ≠ .write) (hcall : c ≠ .call) (hsafe : crash? c l s = none)
      (h : simple c l s = .error f) : FailsItself (.line l) s f
  | generate {opener closer : Line} {body : List Node} {s : State} {f : Fault}
      (hsafe : genCrash? opener s = none) (h : generate opener body s = .error f) :
      FailsItself (.block .gen opener body closer) s f
  | snippet {opener closer : Line} {body : List Node} {s : State} {f : Fault}
      (h : storeSnippet opener body s = .error f) :
      FailsItself (.block .desc opener body closer) s f
  | loop {opener closer : Line} {body : List Node} {s : State} {f : Fault}
      (h : loopTarget opener s = .error f) : FailsItself (.block .loop opener body closer) s f

/-- The crash of a node that was begun in a state, for a number that nothing written plays a part
in. -/
inductive Bursts : Node → State → Crash → Prop
  | chapter {l : Line} {s : State} (hl : Command.ofLine? l = some .newChapter)
      (h : lastChapter s = true) : Bursts (.line l) s .overflow
  | pointer {l : Line} {s : State} (hl : Command.ofLine? l = some .shift)
      (h : overshifts l s = true) : Bursts (.line l) s .overflow
  | members {opener closer : Line} {body : List Node} {s : State} (h : overfull opener s = true) :
      Bursts (.block .gen opener body closer) s .capacity

/-- The crash of a node that was begun in a state, when no other node is to blame. -/
inductive CrashesItself : Node → State → Crash → Prop
  | bursts {n : Node} {s : State} {c : Crash} (h : Bursts n s c) : CrashesItself n s c
  | write {l : Line} {s : State} {p : WritePlan} {chance : Chance}
      (hl : Command.ofLine? l = some .write) (hplan : writePlan l s = .ok (p, chance))
      (h : p.counting.span? s.wordCount p.amount = none) : CrashesItself (.line l) s .overflow
  | loop {opener closer : Line} {body : List Node} {s : State} {n : Nat} {counting : Counting}
      {chance : Chance} (htarget : loopTarget opener s = .ok (n, counting, chance))
      (h : counting.span? s.wordCount n = none) :
      CrashesItself (.block .loop opener body closer) s .overflow

/-- A node that was begun in a state stops a run, when no other node is to blame. -/
def StopsItself (n : Node) (s : State) : Outcome.Stop → Prop
  | .fault f => FailsItself n s f
  | .crash c => CrashesItself n s c

/-- A `GEN` line asks for too many members if it would come to make them and their number, drawn or
written, is beyond the room there is. -/
theorem overfull_iff {opener : Line} {s : State} : overfull opener s = true ↔
    ∃ word options n chance, opener.paramWords = word :: options ∧ options.length ≤ 2 ∧
      '.' ∉ (Text.lower word).toList ∧ memberCount opener s.chance options[0]? = .ok (n, chance) ∧
      memberRoom < n ∧ ∀ set ∈ options[1]?, (s.genders.sets.get? (Text.lower set)).isSome = true := by
  unfold overfull
  cases hwords : opener.paramWords with
  | nil => simp
  | cons word options =>
    cases hcount : memberCount opener s.chance options[0]? with
    | error f => simp [hcount]
    | ok counted =>
      obtain ⟨n, chance⟩ := counted
      simp [hcount, Option.all_eq_true, and_assoc]

/-- Asks for more members than there is room for, whatever has happened before. -/
def crowdOpener : Line := ⟨1, "GEN crew 9999999999999999999"⟩

theorem overfull_crowdOpener (s : State) : overfull crowdOpener s = true := by
  have hcount : memberCount crowdOpener s.chance (some "9999999999999999999") =
      .ok (9999999999999999999, s.chance) := by
    have hnumber : Amount.ofCount? "9999999999999999999" = some (.count 9999999999999999999) := by
      decide +kernel
    simp [memberCount, hnumber, Amount.resolve_count]
  exact overfull_iff.2 ⟨"crew", ["9999999999999999999"], _, _, by decide +kernel, by decide,
    by decide +kernel, hcount, by decide, by simp⟩

theorem bursts_of_crash? {c : Command} {l : Line} {s : State} {crash : Crash}
    (hl : Command.ofLine? l = some c) (h : crash? c l s = some crash) : Bursts (.line l) s crash := by
  unfold crash? at h
  split at h
  · obtain ⟨hlast, ⟨⟩⟩ := Option.ite_none_right_eq_some.1 h
    exact .chapter hl hlast
  · obtain ⟨hfar, ⟨⟩⟩ := Option.ite_none_right_eq_some.1 h
    exact .pointer hl hfar
  · simp at h

theorem overfull_of_genCrash? {opener : Line} {s : State} {crash : Crash}
    (h : genCrash? opener s = some crash) : overfull opener s = true ∧ crash = .capacity := by
  obtain ⟨hfull, ⟨⟩⟩ := Option.ite_none_right_eq_some.1 h
  exact ⟨hfull, rfl⟩

/-- What bursts crashes, however bodies are run. -/
theorem Bursts.node_eq {n : Node} {s : State} {c : Crash}
    (h : Bursts n { s with current := some n.firstLine } c)
    (body : List Node → State → Outcome State) (limit : Nat) :
    node body limit n s = .crashed c s.shown := by
  cases h with
  | @chapter l _ hl hlast =>
    have hidle : l.isIdle = false := Line.isIdle_of_ofLine? hl
    simp only [Node.firstLine] at hlast
    simp [node, line, hidle, hl, crash?, hlast, Outcome.checked]
  | @pointer l _ hl hfar =>
    have hidle : l.isIdle = false := Line.isIdle_of_ofLine? hl
    simp only [Node.firstLine] at hfar
    simp [node, line, hidle, hl, crash?, hfar, Outcome.checked]
  | members hfull =>
    simp only [Node.firstLine] at hfull
    simp [node, genCrash?, hfull, Outcome.checked]

section Node

variable {body : List Node → State → Outcome State} {limit : Nat} {s : State} {halt : Outcome.Stop}
  {shown : Array String}

theorem stopsItself_of_write {l : Line} (hl : Command.ofLine? l = some .write)
    (h : write limit l s = Outcome.stopped halt shown) : StopsItself (.line l) s halt := by
  cases halt with
  | fault f => exact .write hl h
  | crash c =>
    rcases cases_of_write limit l s with
      ⟨f, -, hf⟩ | ⟨p, chance, hplan, ⟨hspan, hcrash⟩ | ⟨start, stop, -, hrun⟩⟩
    · simp [hf, Outcome.stopped] at h
    · obtain ⟨rfl, -⟩ := Outcome.crashed.inj (hcrash.symm.trans h)
      exact .write hl hplan hspan
    · -- Writing a sentence either succeeds or fails.
      rcases Outcome.bind_eq_stopped_iff.1 (hrun.symm.trans h) with hstop | ⟨x, -, hlast⟩
      · obtain ⟨_, x, -, hone⟩ := Outcome.exists_stopped_of_repeated hstop
        simp only [writeOne, Outcome.stopped] at hone
        split at hone <;> simp at hone
      · exact absurd hlast (Outcome.finished_ne_stopped _ _ _)

/-- A line stops a run by itself, or the snippet that it calls does. -/
theorem cases_of_line_stopped {l : Line} (h : line body limit l s = Outcome.stopped halt shown) :
    StopsItself (.line l) s halt ∨
      ∃ ns, Command.ofLine? l = some .call ∧ calledBody l s = .ok ns ∧
        body ns s = Outcome.stopped halt shown := by
  unfold line at h
  split at h
  · exact absurd h (Outcome.finished_ne_stopped _ _ _)
  next hidle =>
  split at h
  · next hl =>
    obtain rfl := Outcome.eq_of_failed_eq_stopped h
    exact .inl (.unknown (by simpa using hidle) hl)
  · next hl => exact .inl (stopsItself_of_write hl h)
  · next hl =>
    split at h
    · next ns hcall => exact .inr ⟨ns, hl, hcall, h⟩
    · next hfault =>
      obtain rfl := Outcome.eq_of_failed_eq_stopped h
      exact .inl (.call hl hfault)
  · next c hwrite hcall hl =>
    rcases Outcome.cases_of_checked_stopped h with ⟨c, hcrash, rfl⟩ | ⟨f, hsafe, hfault, rfl⟩
    · exact .inl (.bursts (bursts_of_crash? hl hcrash))
    · exact .inl (.simple hl hwrite hcall hsafe hfault)

/-- A loop stops a run by itself or in one of its passes. -/
theorem cases_of_loop_stopped {opener closer : Line} {ns : List Node}
    (h : loop (body ns) limit opener s = Outcome.stopped halt shown) :
    StopsItself (.block .loop opener ns closer) s halt ∨
      ∃ n counting chance k t, loopTarget opener s = .ok (n, counting, chance) ∧
        Outcome.times (body ns) k { s with chance } = .finished t ∧
        body ns t = Outcome.stopped halt shown := by
  rcases cases_of_loop (body ns) limit opener s with
    ⟨f, htarget, hf⟩ | ⟨n, counting, chance, htarget, ⟨hspan, hcrash⟩ | ⟨start, stop, -, hrun⟩⟩
  · obtain rfl := Outcome.eq_of_failed_eq_stopped (hf.symm.trans h)
    exact .inl (.loop htarget)
  · obtain rfl := Outcome.eq_of_crashed_eq_stopped (hcrash.symm.trans h)
    exact .inl (.loop htarget hspan)
  · obtain ⟨k, t, hk, ht⟩ := Outcome.exists_stopped_of_repeated (hrun.symm.trans h)
    exact .inr ⟨n, counting, chance, k, t, htarget, hk, ht⟩

theorem stopsItself_of_generate {opener closer : Line} {ns : List Node}
    (h : Outcome.checked (genCrash? opener s) s.shown (generate opener ns s) =
      Outcome.stopped halt shown) : StopsItself (.block .gen opener ns closer) s halt := by
  rcases Outcome.cases_of_checked_stopped h with ⟨c, hcrash, rfl⟩ | ⟨f, hsafe, hfault, rfl⟩
  · obtain ⟨hfull, rfl⟩ := overfull_of_genCrash? hcrash
    exact .bursts (.members hfull)
  · exact .generate hsafe hfault

theorem stopsItself_of_storeSnippet {opener closer : Line} {ns : List Node}
    (h : Outcome.ofExcept s.shown (storeSnippet opener ns s) = Outcome.stopped halt shown) :
    StopsItself (.block .desc opener ns closer) s halt := by
  cases hstored : storeSnippet opener ns s with
  | ok t =>
    rw [hstored] at h
    exact absurd h (Outcome.finished_ne_stopped _ _ _)
  | error f =>
    rw [hstored] at h
    obtain rfl := Outcome.eq_of_failed_eq_stopped h
    exact .snippet hstored

end Node

/-- A run that stops before its end has come to a node that stops it by itself. -/
theorem exists_comes_of_stopped {limit : Nat} {ns : List Node} {s : State} {halt : Outcome.Stop}
    {shown : Array String} (h : nodes limit ns s = Outcome.stopped halt shown) :
    ∃ n t, Comes limit ns s n t ∧ StopsItself n { t with current := some n.firstLine } halt := by
  induction limit generalizing ns s with
  | zero => exact absurd h (Outcome.unfinished_ne_stopped _ _)
  | succ limit ihlimit =>
    rw [nodes] at h
    induction ns generalizing s with
    | nil => exact absurd h (Outcome.finished_ne_stopped _ _ _)
    | cons n rest ih =>
      rw [inOrder_cons] at h
      rcases Outcome.bind_eq_stopped_iff.1 h with hfirst | ⟨s', hs', hrest⟩
      · cases n with
        | line l =>
          rcases cases_of_line_stopped hfirst with hself | ⟨body, hl, hbody, hstopped⟩
          · exact ⟨.line l, s, .here limit _ rest s, hself⟩
          · obtain ⟨m, t, hcomes, hself⟩ := ihlimit hstopped
            exact ⟨m, t, .call hl hbody hcomes, hself⟩
        | block kind opener body closer =>
          cases kind with
          | gen => exact ⟨_, s, .here limit _ rest s, stopsItself_of_generate hfirst⟩
          | desc => exact ⟨_, s, .here limit _ rest s, stopsItself_of_storeSnippet hfirst⟩
          | loop =>
            rcases cases_of_loop_stopped hfirst with hself | ⟨_, _, _, _, _, htarget, hk, hstopped⟩
            · exact ⟨_, s, .here limit _ rest s, hself⟩
            · obtain ⟨m, t, hcomes, hself⟩ := ihlimit hstopped
              exact ⟨m, t, .pass htarget hk hcomes, hself⟩
      · obtain ⟨m, t, hcomes, hself⟩ := ih hrest
        exact ⟨m, t, .next hs' hcomes, hself⟩

/-- A run that fails has come to a node that fails by itself. -/
theorem exists_comes_of_failed {limit : Nat} {ns : List Node} {s : State} {f : Fault}
    {shown : Array String} (h : nodes limit ns s = .failed f shown) :
    ∃ n t, Comes limit ns s n t ∧ FailsItself n { t with current := some n.firstLine } f :=
  @exists_comes_of_stopped limit ns s (.fault f) shown h

/-- A run that crashes has come to a node that crashes by itself. -/
theorem exists_comes_of_crashed {limit : Nat} {ns : List Node} {s : State} {c : Crash}
    {shown : Array String} (h : nodes limit ns s = .crashed c shown) :
    ∃ n t, Comes limit ns s n t ∧ CrashesItself n { t with current := some n.firstLine } c :=
  @exists_comes_of_stopped limit ns s (.crash c) shown h

/-- A run of allowed nodes comes to allowed nodes only, in states that keep the invariant. -/
theorem Invariant.comes {allowed : Node → Prop} {I : State → Prop} (hI : Invariant allowed I)
    {limit : Nat} {ns : List Node} {s t : State} {m : Node} (h : Comes limit ns s m t)
    (hns : ∀ n ∈ ns, allowed n) (hs : I s) : allowed m ∧ I t := by
  induction h with
  | here limit n rest s => exact ⟨hns n List.mem_cons_self, hs⟩
  | next hn _ ih =>
    have hnext := hI.node (fun _ _ _ hns => hI.nodes hns) (hns _ List.mem_cons_self) hn hs
    exact ih (fun m hm => hns m (List.mem_cons_of_mem _ hm)) hnext
  | @pass limit opener closer body _ s _ _ _ _ _ _ chance _ hpasses _ ih =>
    have hbody := hI.loopBody opener body closer (hns _ List.mem_cons_self)
    have hbegun := hI.drawn _ chance (hI.begun s opener hs)
    exact ih hbody (Kept.times (fun _ _ => hI.nodes hbody) hpasses hbegun)
  | @call _ l body _ s _ _ _ hcall _ ih =>
    have hbegun := hI.begun s l hs
    exact ih (hI.calledBody l _ body hcall hbegun) hbegun

end ProseScript.Run
