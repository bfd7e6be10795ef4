import ProseScript.Proofs.Run.Outcome
import ProseScript.Run

/-!
What each command may change: beside the parts named in its frame, the state after a command is the
state before it.
-/

namespace ProseScript

namespace State

@[simp] theorem warnAll_nil (s : State) : s.warnAll [] = s := rfl

theorem warnAll_cons (s : State) (w : Warning) (ws : List Warning) :
    s.warnAll (w :: ws) = (s.warn w).warnAll ws := rfl

/-- Warnings change nothing else. -/
theorem warnAll_eq (s : State) (ws : List Warning) :
    s.warnAll ws = { s with warnings := s.warnings ++ ws.toArray } := by
  induction ws generalizing s with
  | nil => simp
  | cons w rest ih =>
    rw [warnAll_cons, ih]
    simp [warn]

end State

namespace Run

variable {l : Line} {s t : State}

theorem frame_setFormat (h : setFormat l s = .ok t) : t = { s with format := t.format } := by
  unfold setFormat at h
  split at h
  · split at h
    · rw [← Except.ok.inj h]
    · simp at h
  · simp at h

theorem frame_writeFixed {code : FormatCode} {sentence : String}
    (h : writeFixed l code sentence s = .ok t) :
    t = { s with output := t.output, wordCount := t.wordCount } := by
  unfold writeFixed at h
  split at h
  · rw [← Except.ok.inj h]
    rfl
  · simp at h

theorem frame_newChapter (h : newChapter l s = .ok t) :
    t = { s with chapter := t.chapter, output := t.output, wordCount := t.wordCount } := by
  have hfixed := frame_writeFixed h
  rw [hfixed]

theorem frame_display (h : display l s = .ok t) :
    t = { s with warnings := t.warnings, shown := t.shown } := by
  simp only [display] at h
  split at h
  · rw [← Except.ok.inj h]
    rfl
  · split at h
    · simp at h
    · split at h
      · rw [← Except.ok.inj h]
        rfl
      · split at h <;>
          · rw [← Except.ok.inj h]
            rfl
  · simp at h

theorem frame_refGender (h : refGender l s = .ok t) : t = { s with genders := t.genders } := by
  simp only [refGender] at h
  split at h
  · simp at h
  split at h
  · split at h
    · simp at h
    · obtain ⟨genders, -, ht⟩ := Fault.map_eq_ok_iff.1 h
      rw [← ht]
    · simp at h
  · simp at h

/-- A recital assigns one item to its targets, after a warning if there was nothing to recite. -/
theorem parts_of_recite (h : recite l s = .ok t) :
    ∃ (empty : Bool) (name item lhs rhs : String),
      splitAssignment l.params = some (lhs, rhs) ∧
      s.store.assignAll l (.list [item]) (Text.words lhs) = (t.store, none) ∧
      t = { (if empty then s.warn ((Warning.severe ("empty variable " ++ name)).on l) else s) with
        store := t.store } := by
  have hstore (p : Bool) (w : Warning) : (if p then s.warn w else s).store = s.store := by
    cases p <;> rfl
  simp only [recite] at h
  split at h
  · simp at h
  next lhs rhs hsides =>
  split at h
  · simp at h
  split at h
  · simp at h
  split at h
  · simp at h
  · split at h
    · next store hassign =>
      rw [hstore] at hassign
      rw [← Except.ok.inj h]
      exact ⟨_, _, _, lhs, rhs, hsides, hassign, rfl⟩
    · simp at h
  · simp at h

theorem frame_recite (h : recite l s = .ok t) :
    t = { s with store := t.store, warnings := t.warnings } := by
  obtain ⟨empty, name, item, lhs, rhs, -, -, ht⟩ := parts_of_recite h
  rw [ht]
  cases empty <;> rfl

/-- Moving a pointer replaces the group, or warns and changes nothing else. -/
theorem cases_of_shiftGroup {name : String} {offset : Int} (h : shiftGroup l name offset s = .ok t) :
    (∃ g g', s.store.group? name = some g ∧ g.shift offset = .ok g' ∧
      t = { s with store := s.store.setGroup name g' }) ∨
    ∃ warning : Warning, t = s.warn (warning.on l) := by
  simp only [shiftGroup] at h
  split at h
  · simp at h
  split at h
  · simp at h
  · next g hg =>
    split at h
    · next g' hshift => exact .inl ⟨g, g', hg, hshift, (Except.ok.inj h).symm⟩
    · exact .inr ⟨_, (Except.ok.inj h).symm⟩

theorem frame_shiftGroup {name : String} {offset : Int} (h : shiftGroup l name offset s = .ok t) :
    t = { s with store := t.store, warnings := t.warnings } := by
  obtain ⟨g, g', -, -, rfl⟩ | ⟨warning, rfl⟩ := cases_of_shiftGroup h
  · rfl
  · rfl

theorem frame_shift (h : shift l s = .ok t) :
    t = { s with store := t.store, warnings := t.warnings } := by
  unfold shift at h
  split at h
  · exact frame_shiftGroup h
  · split at h
    · simp at h
    · exact frame_shiftGroup h
  · simp at h

/-- Moving a pointer replaces a group that is there, or leaves the store as it is. -/
theorem store_of_shift (h : shift l s = .ok t) :
    t.store = s.store ∨ ∃ name g g' offset, s.store.group? name = some g ∧
      g.shift offset = .ok g' ∧ t.store = s.store.setGroup name g' := by
  have hgroup {name : String} {offset : Int} (h : shiftGroup l name offset s = .ok t) :
      t.store = s.store ∨ ∃ name g g' offset, s.store.group? name = some g ∧
        g.shift offset = .ok g' ∧ t.store = s.store.setGroup name g' := by
    obtain ⟨g, g', hg, hshift, rfl⟩ | ⟨warning, rfl⟩ := cases_of_shiftGroup h
    · exact .inr ⟨name, g, g', offset, hg, hshift, rfl⟩
    · exact .inl rfl
  unfold shift at h
  split at h
  · exact hgroup h
  · split at h
    · simp at h
    · exact hgroup h
  · simp at h

/-- Mixing a group replaces one that is there. -/
theorem store_of_shuffle (h : shuffle l s = .ok t) :
    ∃ name g, s.store.group? name = some g ∧
      t.store = s.store.setGroup name (g.shuffle s.chance).1 := by
  simp only [shuffle] at h
  split at h
  · next word _ =>
    split at h
    · simp at h
    split at h
    · simp at h
    · next g hg =>
      rw [← Except.ok.inj h]
      exact ⟨Text.lower word, g, hg, rfl⟩
  · simp at h

theorem frame_shuffle (h : shuffle l s = .ok t) :
    t = { s with store := t.store, chance := t.chance } := by
  simp only [shuffle] at h
  split at h
  · split at h
    · simp at h
    split at h
    · simp at h
    · rw [← Except.ok.inj h]
  · simp at h

/-- An assignment line evaluates its right-hand side and stores the value under its targets. -/
theorem parts_of_assign {style : Style} (h : assign style l s = .ok t) :
    ∃ lhs rhs v chance, splitAssignment l.params = some (lhs, rhs) ∧
      Expression.evaluate style rhs l s.store s.chance = (.ok v, chance) ∧
      s.store.assignAll l v (Text.words lhs) = (t.store, none) := by
  unfold assign at h
  split at h
  · next store chance hassign =>
    unfold Expression.assign at hassign
    split at hassign
    · simp at hassign
    · next lhs rhs hsides =>
      split at hassign
      · simp at hassign
      · next v c hv =>
        rw [← Except.ok.inj h]
        exact ⟨lhs, rhs, v, c, hsides, hv, (Prod.mk.inj hassign).1⟩
  · simp at h

theorem frame_assign {style : Style} (h : assign style l s = .ok t) :
    t = { s with store := t.store, chance := t.chance } := by
  unfold assign at h
  split at h
  · rw [← Except.ok.inj h]
  · simp at h

theorem frame_storeSnippet {body : List Node} (h : storeSnippet l body s = .ok t) :
    t = { s with store := t.store } := by
  unfold storeSnippet at h
  split at h
  · rw [← Except.ok.inj h]
  · simp at h

/-- The second state differs from the first at most in its page, its warnings and its chance. -/
def Wrote (s t : State) : Prop :=
  t = { s with
    output := t.output
    wordCount := t.wordCount
    warnings := t.warnings
    chance := t.chance }

theorem Wrote.trans {u : State} (hst : Wrote s t) (htu : Wrote t u) : Wrote s u := by
  unfold Wrote at *
  rw [htu, hst]

theorem frame_writeOne {p : WritePlan} {i j : Nat} (h : writeOne l p (i, s) = .finished (j, t)) :
    Wrote s t := by
  simp only [writeOne] at h
  split at h
  · simp at h
  · obtain ⟨-, ht⟩ := Prod.mk.inj (Outcome.finished.inj h)
    rw [← ht, State.warnAll_eq]
    rfl

/-- The place and the state that writing by a plan begins with. -/
def beginWriting (p : WritePlan) (chance : Chance) (s : State) : Nat × State :=
  ((startIndex p chance).1, { s with chance := (startIndex p chance).2 })

/-- A `WRITE` line without a plan fails, one with a target out of reach crashes, and any other one
writes up to its target. -/
theorem cases_of_write (limit : Nat) (l : Line) (s : State) :
    (∃ f, writePlan l s = .error f ∧ write limit l s = .failed f s.shown) ∨
    ∃ p chance, writePlan l s = .ok (p, chance) ∧
      (p.counting.span? s.wordCount p.amount = none ∧
          write limit l s = .crashed .overflow s.shown ∨
        ∃ start stop, p.counting.span? s.wordCount p.amount = some (start, stop) ∧
          write limit l s =
            (Outcome.repeated p.counting (fun x => x.2.wordCount) limit (writeOne l p) start stop
              (beginWriting p chance s)).bind fun x => .finished x.2) := by
  cases hplan : writePlan l s with
  | error f => exact .inl ⟨f, rfl, by rw [write, hplan]⟩
  | ok planned =>
    obtain ⟨p, chance⟩ := planned
    refine .inr ⟨p, chance, rfl, ?_⟩
    cases hspan : p.counting.span? s.wordCount p.amount with
    | none => exact .inl ⟨rfl, by simp only [write, hplan, hspan]⟩
    | some span => exact .inr ⟨span.1, span.2, rfl, by simp only [write, hplan, hspan]; rfl⟩

/-- A finished `WRITE` line had a plan and has written some number of sentences by it, that of the
plan if it counts sentences. -/
theorem times_of_write {limit : Nat} (h : write limit l s = .finished t) :
    ∃ p chance k i, writePlan l s = .ok (p, chance) ∧ (p.counting = .cycles → k = p.amount) ∧
      Outcome.times (writeOne l p) k
        ((startIndex p chance).1, { s with chance := (startIndex p chance).2 }) =
          .finished (i, t) := by
  rcases cases_of_write limit l s with
    ⟨f, -, hf⟩ | ⟨p, chance, hplan, ⟨-, hcrash⟩ | ⟨start, stop, hspan, hrun⟩⟩
  · simp [hf] at h
  · simp [hcrash] at h
  · rw [hrun] at h
    obtain ⟨⟨i, u⟩, hrun, hlast⟩ := Outcome.bind_eq_finished_iff.1 h
    obtain rfl : u = t := Outcome.finished.inj hlast
    cases hcounting : p.counting with
    | cycles =>
      rw [hcounting] at hrun hspan
      obtain ⟨rfl, rfl⟩ := Prod.mk.inj (Option.some.inj hspan)
      simp only [Outcome.repeated, Nat.sub_zero] at hrun
      exact ⟨p, chance, p.amount, i, hplan, fun _ => rfl, hrun⟩
    | words =>
      obtain ⟨k, hk⟩ := Outcome.exists_times_of_repeated hrun
      exact ⟨p, chance, k, i, hplan, by simp [hcounting], hk⟩

/-- A `WRITE` line that fails has no plan, or fails to write one of its sentences. -/
theorem cases_of_write_failed {limit : Nat} {f : Fault} {shown : Array String}
    (h : write limit l s = .failed f shown) :
    writePlan l s = .error f ∨ ∃ p chance k x, writePlan l s = .ok (p, chance) ∧
      Outcome.times (writeOne l p) k (beginWriting p chance s) = .finished x ∧
      writeOne l p x = .failed f shown := by
  rcases cases_of_write limit l s with
    ⟨f', hplan, hf⟩ | ⟨p, chance, hplan, ⟨-, hcrash⟩ | ⟨start, stop, -, hrun⟩⟩
  · obtain ⟨rfl, -⟩ := Outcome.failed.inj (hf.symm.trans h)
    exact .inl hplan
  · simp [hcrash] at h
  · rw [hrun] at h
    rcases Outcome.bind_eq_failed_iff.1 h with hfailed | ⟨x, -, hlast⟩
    · obtain ⟨k, x, hk, hone⟩ := Outcome.exists_failed_of_repeated hfailed
      exact .inr ⟨p, chance, k, x, hplan, hk, hone⟩
    · cases hlast

theorem frame_write {limit : Nat} (h : write limit l s = .finished t) : Wrote s t := by
  obtain ⟨p, chance, k, i, -, -, hk⟩ := times_of_write h
  have hframe := Outcome.rel_of_times (R := fun x y : Nat × State => Wrote x.2 y.2)
    (fun _ => rfl) (fun _ _ _ hxy hyz => hxy.trans hyz) (fun _ _ hxy => frame_writeOne hxy) hk
  have hdrawn : Wrote s { s with chance := (startIndex p chance).2 } := rfl
  exact hdrawn.trans hframe

/-- A loop without a target fails, one with a target out of reach crashes, and any other one is run up
to its target. -/
theorem cases_of_loop (pass : State → Outcome State) (limit : Nat) (opener : Line) (s : State) :
    (∃ f, loopTarget opener s = .error f ∧ loop pass limit opener s = .failed f s.shown) ∨
    ∃ n counting chance, loopTarget opener s = .ok (n, counting, chance) ∧
      (counting.span? s.wordCount n = none ∧ loop pass limit opener s = .crashed .overflow s.shown ∨
        ∃ start stop, counting.span? s.wordCount n = some (start, stop) ∧
          loop pass limit opener s = passes counting limit pass start stop { s with chance }) := by
  cases htarget : loopTarget opener s with
  | error f => exact .inl ⟨f, rfl, by rw [loop, htarget]⟩
  | ok target =>
    obtain ⟨n, counting, chance⟩ := target
    refine .inr ⟨n, counting, chance, rfl, ?_⟩
    cases hspan : counting.span? s.wordCount n with
    | none => exact .inl ⟨rfl, by simp only [loop, htarget, hspan]⟩
    | some span => exact .inr ⟨span.1, span.2, rfl, by simp only [loop, htarget, hspan]⟩

/-- A finished loop has run its body some number of times. -/
theorem times_of_loop {pass : State → Outcome State} {limit : Nat} {opener : Line}
    (h : loop pass limit opener s = .finished t) :
    ∃ n counting chance k, loopTarget opener s = .ok (n, counting, chance) ∧
      Outcome.times pass k { s with chance } = .finished t := by
  rcases cases_of_loop pass limit opener s with
    ⟨f, -, hf⟩ | ⟨n, counting, chance, htarget, ⟨-, hcrash⟩ | ⟨start, stop, -, hrun⟩⟩
  · simp [hf] at h
  · simp [hcrash] at h
  · obtain ⟨k, hk⟩ := Outcome.exists_times_of_repeated (hrun.symm.trans h)
    exact ⟨n, counting, chance, k, htarget, hk⟩

/-- The second state differs from the first at most in its line, its warnings and its chance. -/
def Filled (s t : State) : Prop :=
  t = { s with current := t.current, warnings := t.warnings, chance := t.chance }

theorem Filled.trans {u : State} (hst : Filled s t) (htu : Filled t u) : Filled s u := by
  unfold Filled at *
  rw [htu, hst]

theorem Filled.drawn (h : Filled s t) (chance : Chance) : Filled s { t with chance } := by
  unfold Filled at *
  rw [h]

theorem filled_ite_warn (p : Bool) (w : Warning) (s : State) :
    Filled s (if p then s.warn w else s) := by
  cases p <;> rfl

section Fields

variable {members members' : List Entity}

theorem eq_of_fillField_idle (hidle : l.isIdle = true)
    (h : fillField l members s = .ok (members', t)) : members' = members ∧ t = s := by
  rw [fillField, if_pos hidle] at h
  obtain ⟨hmembers, ht⟩ := Prod.mk.inj (Except.ok.inj h)
  exact ⟨hmembers.symm, ht.symm⟩

/-- A field line warns if the members have the field already, draws how many items each is to get,
finds its source and gives every member a sample of it. -/
theorem steps_of_fillField (hidle : l.isIdle = false)
    (h : fillField l members s = .ok (members', t)) :
    ∃ (field count source : String) (flags : List String) (again : Bool) (n : Nat) (c : Chance)
      (distinct : Bool) (items : List String) (chance : Chance),
      Text.words l.text = field :: count :: source :: flags ∧ ¬ 1 < flags.length ∧
      fieldCount l s.chance count = .ok (n, c) ∧ wantsDistinct l flags[0]? = .ok distinct ∧
      fieldSource l s (Text.lower source) = .ok items ∧
      fillMembers (Text.lower field) n items distinct members [] c = (members', chance) ∧
      t = { (if again then
          s.warn (((overwriteWarning (Text.lower field)).on l).inCommand "GEN") else s) with
        chance } := by
  have hchance (p : Bool) (w : Warning) : (if p then s.warn w else s).chance = s.chance := by
    cases p <;> rfl
  have hsource (p : Bool) (w : Warning) (name : String) :
      fieldSource l (if p then s.warn w else s) name = fieldSource l s name := by
    cases p <;> rfl
  simp only [fillField, hidle, Bool.false_eq_true, if_false] at h
  split at h
  · next field count source flags hwords =>
    split at h
    · simp at h
    · next hflags =>
      obtain ⟨⟨n, c⟩, hcount, h⟩ := Fault.bind_eq_ok_iff.1 h
      obtain ⟨distinct, hdistinct, h⟩ := Fault.bind_eq_ok_iff.1 h
      obtain ⟨items, hitems, h⟩ := Fault.bind_eq_ok_iff.1 h
      obtain ⟨hmembers, ht⟩ := Prod.mk.inj (Except.ok.inj h)
      rw [hchance] at hcount
      rw [hsource] at hitems
      exact ⟨field, count, source, flags, _, n, c, distinct, items, _, hwords, hflags, hcount,
        hdistinct, hitems, Prod.ext hmembers rfl, ht.symm⟩
  · simp at h

/-- A field line changes the state by a draw, after a warning if the members have the field
already. -/
theorem eq_of_fillField (h : fillField l members s = .ok (members', t)) :
    ∃ (again : Bool) (field : String) (chance : Chance), t =
      { (if again then s.warn (((overwriteWarning field).on l).inCommand "GEN") else s) with
        chance } := by
  cases hidle : l.isIdle with
  | true => exact ⟨false, "", s.chance, (eq_of_fillField_idle hidle h).2⟩
  | false =>
    obtain ⟨field, _, _, _, again, _, _, _, _, chance, -, -, -, -, -, -, ht⟩ :=
      steps_of_fillField hidle h
    exact ⟨again, Text.lower field, chance, ht⟩

theorem frame_fillField (h : fillField l members s = .ok (members', t)) : Filled s t := by
  obtain ⟨again, field, chance, rfl⟩ := eq_of_fillField h
  exact (filled_ite_warn _ _ s).drawn _

/-- What every field line does to the members and the state, a body does. -/
theorem rel_of_fillFields {R : List Entity × State → List Entity × State → Prop}
    (hrefl : ∀ x, R x x) (htrans : ∀ x y z, R x y → R y z → R x z) {body : List Node}
    (hstep : ∀ l, .line l ∈ body → ∀ ms u ms' v,
      fillField l ms { u with current := some l } = .ok (ms', v) → R (ms, u) (ms', v))
    (h : fillFields body members s = .ok (members', t)) : R (members, s) (members', t) := by
  induction body generalizing members s with
  | nil => exact Except.ok.inj h ▸ hrefl _
  | cons n rest ih =>
    cases n with
    | line l =>
      simp only [fillFields] at h
      split at h
      · next ms u hfield =>
        have hfirst := hstep l List.mem_cons_self _ _ _ _ hfield
        have hrest := ih (fun l hl => hstep l (List.mem_cons_of_mem _ hl)) h
        exact htrans _ _ _ hfirst hrest
      · simp at h
    | block kind opener body closer => simp [fillFields] at h

theorem frame_fillFields {body : List Node}
    (h : fillFields body members s = .ok (members', t)) : Filled s t := by
  refine rel_of_fillFields (R := fun x y => Filled x.2 y.2) (fun _ => rfl)
    (fun _ _ _ hxy hyz => hxy.trans hyz) ?_ h
  intro l _ ms u ms' v hfield
  have hbegun : Filled u { u with current := some l } := rfl
  exact hbegun.trans (frame_fillField hfield)

end Fields

/-- New members are assigned, and the group they are in is pointed at its first. -/
theorem cases_of_storeGroup {name : String} {members : List Entity} {s t : Store}
    (h : storeGroup l name members s = .ok t) :
    ∃ assigned, s.assign name (.group members) = .ok assigned ∧
      (t = assigned ∨ ∃ old g, assigned.group? name = some old ∧ old.pointAt 0 = some g ∧
        t = assigned.setGroup name g) := by
  unfold storeGroup at h
  split at h
  · simp at h
  · next assigned hassign =>
    refine ⟨assigned, hassign, ?_⟩
    split at h
    · next g hg =>
      obtain ⟨old, hold, hpoint⟩ := Option.bind_eq_some_iff.1 hg
      exact .inr ⟨old, g, hold, hpoint, (Except.ok.inj h).symm⟩
    · exact .inl (Except.ok.inj h).symm

/-- A block of members warns if there is such a group already, draws how many there are to be, makes
them, fills their fields and stores the group. -/
theorem steps_of_generate {body : List Node} (h : generate l body s = .ok t) :
    ∃ (word : String) (options : List String) (again : Bool) (n : Nat) (c : Chance)
      (made : List Entity) (chance : Chance) (members : List Entity) (u : State),
      l.paramWords = word :: options ∧ '.' ∉ (Text.lower word).toList ∧
      memberCount l s.chance options[0]? = .ok (n, c) ∧
      newMembers l s.genders n c options[1]? = .ok (made, chance) ∧
      fillFields body made
        { (if again then s.warn ((overwriteWarning (Text.lower word)).on l) else s) with chance } =
          .ok (members, u) ∧
      storeGroup l (Text.lower word) members u.store = .ok t.store ∧
      t = { u with store := t.store } := by
  have hchance (p : Bool) (w : Warning) : (if p then s.warn w else s).chance = s.chance := by
    cases p <;> rfl
  have hgenders (p : Bool) (w : Warning) : (if p then s.warn w else s).genders = s.genders := by
    cases p <;> rfl
  cases hwords : l.paramWords with
  | nil => simp [generate, hwords] at h
  | cons word options =>
    simp only [generate, hwords] at h
    split at h
    · simp at h
    split at h
    · simp at h
    · next hplain =>
      obtain ⟨⟨n, c⟩, hcount, h⟩ := Fault.bind_eq_ok_iff.1 h
      obtain ⟨⟨made, chance⟩, hmade, h⟩ := Fault.bind_eq_ok_iff.1 h
      obtain ⟨⟨members, u⟩, hfill, h⟩ := Fault.bind_eq_ok_iff.1 h
      obtain ⟨store, hstore, h⟩ := Fault.bind_eq_ok_iff.1 h
      have ht : { u with store } = t := Except.ok.inj h
      subst ht
      rw [hchance] at hcount
      rw [hgenders] at hmade
      exact ⟨word, options, _, n, c, made, chance, members, u, rfl, hplain, hcount, hmade, hfill,
        hstore, rfl⟩

theorem parts_of_generate {body : List Node} (h : generate l body s = .ok t) :
    ∃ (again : Bool) (name : String) (chance : Chance) (made members : List Entity) (u : State),
      '.' ∉ name.toList ∧
      fillFields body made
        { (if again then s.warn ((overwriteWarning name).on l) else s) with chance } =
          .ok (members, u) ∧
      storeGroup l name members u.store = .ok t.store ∧ t = { u with store := t.store } := by
  obtain ⟨word, -, again, -, -, made, chance, members, u, -, hplain, -, -, hfill, hstore, ht⟩ :=
    steps_of_generate h
  exact ⟨again, Text.lower word, chance, made, members, u, hplain, hfill, hstore, ht⟩

/-- A block of members changes the store only by storing them, under a name without a period. -/
theorem frame_generate {body : List Node} (h : generate l body s = .ok t) :
    ∃ name members u, '.' ∉ name.toList ∧ Filled s u ∧
      storeGroup l name members s.store = .ok t.store ∧ t = { u with store := t.store } := by
  obtain ⟨again, name, chance, made, members, u, hplain, hfill, hstore, ht⟩ := parts_of_generate h
  have hu : Filled s u := ((filled_ite_warn _ _ s).drawn chance).trans (frame_fillFields hfill)
  rw [hu] at hstore
  exact ⟨name, members, u, hplain, hu, hstore, ht⟩

end Run

end ProseScript
