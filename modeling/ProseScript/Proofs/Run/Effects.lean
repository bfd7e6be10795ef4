import ProseScript.Proofs.Lint.Agreement

/-!
What a program can change. Main statement: a run that finishes leaves each part of the state as it
was, unless the program has at some depth a construct that may change this part.
-/

namespace ProseScript

/-- An amount that takes a draw to resolve. -/
def Amount.isRange : Amount → Bool
  | count _ => false
  | countRange _ _ => true
  | words _ => false
  | wordRange _ _ => true

theorem Amount.resolve_of_not_isRange {a : Amount} (h : a.isRange = false) (c : Chance) :
    (a.resolve c).2 = c := by
  cases a with
  | count n => rfl
  | words n => rfl
  | countRange lo hi => simp [isRange] at h
  | wordRange lo hi => simp [isRange] at h

namespace Run

/-- The parts of a state that commands change, beside its warnings and what it displays. -/
inductive Part where
  | page
  | chapter
  | format
  | genders
  | snippets
  | values
  | chance
  deriving DecidableEq, Repr

namespace Part

/-- The second state has a part exactly as the first has it. The values are all that the store holds
beside its snippets. -/
def Same : Part → State → State → Prop
  | page, s, t => t.output = s.output ∧ t.wordCount = s.wordCount
  | chapter, s, t => t.chapter = s.chapter
  | format, s, t => t.format = s.format
  | genders, s, t => t.genders = s.genders
  | snippets, s, t => t.store.snippets = s.store.snippets
  | values, s, t =>
      t.store.words = s.store.words ∧ t.store.sentences = s.store.sentences ∧
        t.store.groups = s.store.groups ∧ t.store.userVars = s.store.userVars ∧
        t.store.aliases = s.store.aliases
  | chance, s, t => t.chance = s.chance

/-- The commands that may change a part, whatever their parameters. -/
def commands : Part → List Command
  | page => [.write, .newLine, .newPara, .newChapter]
  | chapter => [.newChapter]
  | format => [.format]
  | genders => [.refGender]
  | snippets => []
  | values =>
      [.assignList, .assignCatalog, .assignGen, .wordJoin, .upCase, .lowCase, .supCase, .slowCase,
        .recite, .shift, .shuffle]
  | chance => [.write, .shuffle]

/-- The blocks that may change a part, whatever their parameters. -/
def blocks : Part → List BlockKind
  | snippets => [.desc]
  | values => [.gen]
  | chance => [.gen]
  | _ => []

end Part

/-- An assignment that selects at random: `name amount` stands on its right-hand side. -/
def drawsSelection (l : Line) : Bool :=
  match Command.ofLine? l, splitAssignment l.params with
  | some c, some (_, rhs) =>
      c ∈ [.assignList, .assignCatalog, .assignGen] && (Expression.selection? rhs).isSome
  | _, _ => false

/-- A `LOOP` line whose amount is a range. -/
def drawsPasses (opener : Line) : Bool :=
  match opener.paramWords with
  | [word] => (Amount.ofText? word).any Amount.isRange
  | _ => false

/-- A node may change a part by itself, before any node in its body or in a snippet is run for
it. -/
def Part.changedBy (part : Part) : Node → Bool
  | .line l =>
      (Command.ofLine? l).any (· ∈ part.commands) || (part == .chance && drawsSelection l)
  | .block kind opener _ _ =>
      kind ∈ part.blocks || (part == .chance && kind == .loop && drawsPasses opener)

namespace Part.Same

variable {part : Part} {s t u : State}

theorem refl (part : Part) (s : State) : part.Same s s := by
  cases part <;> simp [Same]

theorem trans (hst : part.Same s t) (htu : part.Same t u) : part.Same s u := by
  cases part <;> simp_all [Same]

theorem begun (part : Part) (s : State) (l : Line) : part.Same s { s with current := some l } := by
  cases part <;> simp [Same]

theorem drawn (hpart : part ≠ .chance) (s : State) (chance : Chance) :
    part.Same s { s with chance } := by
  cases part <;> simp_all [Same]

end Part.Same

/-- The second state differs from the first at most in the given parts, in its line, its warnings
and what it displays. -/
def ChangesOnly (parts : List Part) (s t : State) : Prop :=
  ∀ part, part ∉ parts → part.Same s t

/-- What changes no parts but those that a node may change leaves the others alone. -/
theorem ChangesOnly.same {parts : List Part} {part : Part} {s t : State} {n : Node}
    (h : ChangesOnly parts s t) (hparts : ∀ part ∈ parts, part.changedBy n = true)
    (hpart : part.changedBy n = false) : part.Same s t := by
  apply h
  intro hmem
  simp [hparts part hmem] at hpart

section Steps

variable {l : Line} {s t : State}

theorem changesOnly_display (h : display l s = .ok t) : ChangesOnly [] s t := by
  intro part _
  rw [frame_display h]
  cases part <;> simp [Part.Same]

theorem changesOnly_setFormat (h : setFormat l s = .ok t) : ChangesOnly [.format] s t := by
  intro part hpart
  rw [frame_setFormat h]
  cases part <;> simp_all [Part.Same]

theorem changesOnly_writeFixed {code : FormatCode} {sentence : String}
    (h : writeFixed l code sentence s = .ok t) : ChangesOnly [.page] s t := by
  intro part hpart
  rw [frame_writeFixed h]
  cases part <;> simp_all [Part.Same]

theorem changesOnly_newChapter (h : newChapter l s = .ok t) :
    ChangesOnly [.page, .chapter] s t := by
  intro part hpart
  rw [frame_newChapter h]
  cases part <;> simp_all [Part.Same]

theorem changesOnly_refGender (h : refGender l s = .ok t) : ChangesOnly [.genders] s t := by
  intro part hpart
  rw [frame_refGender h]
  cases part <;> simp_all [Part.Same]

theorem changesOnly_write {limit : Nat} (h : write limit l s = .finished t) :
    ChangesOnly [.page, .chance] s t := by
  intro part hpart
  rw [frame_write h]
  cases part <;> simp_all [Part.Same]

theorem changesOnly_storeSnippet {body : List Node} (h : storeSnippet l body s = .ok t) :
    ChangesOnly [.snippets] s t := by
  obtain ⟨word, -, rfl⟩ := storeSnippet_eq_ok_iff.1 h
  intro part hpart
  cases part <;> simp_all [Part.Same, Store.setSnippet]

/-- Commands on values leave the snippets of the store alone. -/
theorem ChangesOnly.restored {current : Option Line} {warnings : Array Warning}
    (hsnippets : t.store.snippets = s.store.snippets)
    (h : t = { s with store := t.store, current, warnings, chance := t.chance }) :
    ChangesOnly [.values, .chance] s t := by
  intro part hpart
  cases part with
  | snippets => exact hsnippets
  | values => simp at hpart
  | chance => simp at hpart
  | _ => rw [h]; simp [Part.Same]

/-- What may draw changes no more parts when nothing was drawn. -/
theorem ChangesOnly.undrawn (h : ChangesOnly [.values, .chance] s t)
    (hchance : t.chance = s.chance) : ChangesOnly [.values] s t := by
  intro part hpart
  by_cases hpart' : part = .chance
  · subst hpart'
    exact hchance
  · exact h part (by simp_all)

theorem changesOnly_recite (h : recite l s = .ok t) : ChangesOnly [.values] s t := by
  have hchance : t.chance = s.chance := by rw [frame_recite h]
  exact (ChangesOnly.restored (storeSteps_snippets.recite h)
    (by rw [hchance]; exact frame_recite h)).undrawn hchance

theorem changesOnly_shift (h : shift l s = .ok t) : ChangesOnly [.values] s t := by
  have hchance : t.chance = s.chance := by rw [frame_shift h]
  exact (ChangesOnly.restored (storeSteps_snippets.shift h)
    (by rw [hchance]; exact frame_shift h)).undrawn hchance

theorem changesOnly_shuffle (h : shuffle l s = .ok t) : ChangesOnly [.values, .chance] s t :=
  .restored (storeSteps_snippets.shuffle h) (frame_shuffle h)

theorem changesOnly_assign {style : Style} (h : assign style l s = .ok t) :
    ChangesOnly [.values, .chance] s t :=
  .restored (storeSteps_snippets.assignLine h) (frame_assign h)

theorem changesOnly_generate {body : List Node} (h : generate l body s = .ok t) :
    ChangesOnly [.values, .chance] s t := by
  obtain ⟨_, _, u, -, hu, -, ht⟩ := frame_generate h
  have hchance : u.chance = t.chance := by rw [ht]
  rw [hu, hchance] at ht
  exact .restored (storeSteps_snippets.generate h) ht

theorem selecting_command {c : Command} {style : Style} (hstyle : Style.ofCommand? c = some style)
    (hselects : Expression.selects style = true) :
    c ∈ [.assignList, .assignCatalog, .assignGen] := by
  cases c <;> simp [Style.ofCommand?] at hstyle ⊢ <;> subst hstyle <;>
    simp [Expression.selects] at hselects

/-- An assignment draws only for a selection. -/
theorem chance_of_assign {c : Command} {style : Style} (hl : Command.ofLine? l = some c)
    (hstyle : Style.ofCommand? c = some style) (hselection : drawsSelection l = false)
    (h : assign style l s = .ok t) : t.chance = s.chance := by
  unfold assign at h
  split at h
  · next store chance hassign =>
    rw [← Except.ok.inj h]
    unfold Expression.assign at hassign
    split at hassign
    · simp at hassign
    · next lhs rhs hsides =>
      have hfixed : Expression.selects style = true → Expression.selection? rhs = none := by
        intro hselects
        have hcommand := selecting_command hstyle hselects
        simpa [drawsSelection, hl, hsides, hcommand] using hselection
      rw [Expression.evaluate_of_not_selection hfixed] at hassign
      split at hassign
      · simp at hassign
      · next hv =>
        obtain ⟨-, hchance⟩ := Prod.mk.inj hassign
        obtain ⟨-, hsame⟩ := Prod.mk.inj hv
        exact (hsame.trans hchance).symm
  · simp at h

/-- A loop draws only for a range of passes. -/
theorem chance_of_loopTarget {n : Nat} {counting : Counting} {chance : Chance}
    (hpasses : drawsPasses l = false) (h : loopTarget l s = .ok (n, counting, chance)) :
    chance = s.chance := by
  unfold loopTarget at h
  split at h
  · simp at h
  next hamount =>
  split at h
  · simp at h
  obtain ⟨-, -, rfl⟩ : _ ∧ _ ∧ _ := by simpa using h
  unfold loopAmount at hamount
  split at hamount
  · simp_all
  · next param hparam =>
    split at hamount
    · next amount hfound =>
      have hrange : amount.isRange = false := by simpa [drawsPasses, hparam, hfound] using hpasses
      have hresolve := Amount.resolve_of_not_isRange hrange s.chance
      simp_all
    · obtain ⟨m, -, hm⟩ := Fault.map_eq_ok_iff.1 hamount
      simp_all
  · simp at hamount

/-- A command that may not change a part leaves it as it was. -/
theorem same_of_simple {part : Part} {c : Command} (hl : Command.ofLine? l = some c)
    (hpart : part.changedBy (.line l) = false) (h : simple c l s = .ok t) : part.Same s t := by
  have hcommand : c ∉ part.commands := by
    intro hc
    simp [Part.changedBy, hl, hc] at hpart
  unfold simple at h
  split at h
  · next style hstyle =>
    have hvalues : part ≠ .values := by
      intro hvalues
      subst hvalues
      cases c <;> simp [Style.ofCommand?, Part.commands] at hstyle hcommand
    by_cases hchance : part = .chance
    · subst hchance
      exact chance_of_assign hl hstyle (by simpa [Part.changedBy, hl, hcommand] using hpart) h
    · exact changesOnly_assign h part (by simp [hvalues, hchance])
  have hrest {parts : List Part} (hchanges : ChangesOnly parts s t)
      (hparts : ∀ part ∈ parts, c ∈ part.commands) : part.Same s t := by
    refine hchanges.same ?_ hpart
    intro part hmem
    simp [Part.changedBy, hl, hparts part hmem]
  cases c with
  | display => exact hrest (changesOnly_display h) (by simp)
  | format => exact hrest (changesOnly_setFormat h) (by simp [Part.commands])
  | newLine => exact hrest (changesOnly_writeFixed h) (by simp [Part.commands])
  | newPara => exact hrest (changesOnly_writeFixed h) (by simp [Part.commands])
  | newChapter => exact hrest (changesOnly_newChapter h) (by simp [Part.commands])
  | refGender => exact hrest (changesOnly_refGender h) (by simp [Part.commands])
  | recite => exact hrest (changesOnly_recite h) (by simp [Part.commands])
  | shift => exact hrest (changesOnly_shift h) (by simp [Part.commands])
  | shuffle => exact hrest (changesOnly_shuffle h) (by simp [Part.commands])
  | _ => simp at h

theorem same_of_write {part : Part} {limit : Nat} (hl : Command.ofLine? l = some .write)
    (hpart : part.changedBy (.line l) = false) (h : write limit l s = .finished t) :
    part.Same s t :=
  (changesOnly_write h).same (by simp [Part.changedBy, Part.commands, hl]) hpart

theorem same_of_generate {part : Part} {body : List Node} {closer : Line}
    (hpart : part.changedBy (.block .gen l body closer) = false) (h : generate l body s = .ok t) :
    part.Same s t :=
  (changesOnly_generate h).same (by simp [Part.changedBy, Part.blocks]) hpart

theorem same_of_storeSnippet {part : Part} {body : List Node} {closer : Line}
    (hpart : part.changedBy (.block .desc l body closer) = false)
    (h : storeSnippet l body s = .ok t) : part.Same s t :=
  (changesOnly_storeSnippet h).same (by simp [Part.changedBy, Part.blocks]) hpart

theorem same_of_loopTarget {part : Part} {body : List Node} {closer : Line} {n : Nat}
    {counting : Counting} {chance : Chance}
    (hpart : part.changedBy (.block .loop l body closer) = false)
    (h : loopTarget l s = .ok (n, counting, chance)) : part.Same s { s with chance } := by
  by_cases hchance : part = .chance
  · subst hchance
    exact chance_of_loopTarget (by simpa [Part.changedBy, Part.blocks] using hpart) h
  · exact .drawn hchance s chance

end Steps

open Lint (Checked)

/-- No node that is run may change the part. Lines in the body of a `GEN` block are fields and no
commands, so they are left out. -/
def Untouched (part : Part) (p : Program) : Prop :=
  ∀ n, Checked n p → part.changedBy n = false

theorem Untouched.kept {part : Part} {p : Program} (hp : Untouched part p) (first : State) :
    Kept (fun n => Checked n p) fun s =>
      part.Same first s ∧ Stocked (fun _ body => ∀ n ∈ body, Checked n p) s where
  begun s l hs := ⟨hs.1.trans (.begun part s l), (Lint.checked_invariant p).begun s l hs.2⟩
  target _ _ _ s _ _ chance hn h hs :=
    ⟨hs.1.trans (same_of_loopTarget (hp _ hn) h), (Lint.checked_invariant p).drawn s chance hs.2⟩
  simple c l s t hn hl hsafe h hs :=
    ⟨hs.1.trans (same_of_simple hl (hp _ hn) h),
      (Lint.checked_invariant p).simple c l s t hn hl hsafe h hs.2⟩
  write limit l s t hn hl h hs :=
    ⟨hs.1.trans (same_of_write hl (hp _ hn) h),
      (Lint.checked_invariant p).write limit l s t hn hl h hs.2⟩
  generate opener body closer s t hn h hs :=
    ⟨hs.1.trans (same_of_generate (hp _ hn) h),
      (Lint.checked_invariant p).generate opener body closer s t hn h hs.2⟩
  snippet opener body closer s t hn h hs :=
    ⟨hs.1.trans (same_of_storeSnippet (hp _ hn) h),
      (Lint.checked_invariant p).snippet opener body closer s t hn h hs.2⟩
  loopBody := (Lint.checked_invariant p).loopBody
  calledBody l s body h hs := (Lint.checked_invariant p).calledBody l s body h hs.2

/-- A finished run has each part as the setup gave it, unless the program has a construct that may
change this part, at any depth and in the bodies of snippets too. -/
theorem untouched_part_stays {part : Part} {p : Program} (hp : Untouched part p) {limit : Nat}
    {u : Setup} {c : Chance} {t : State} (h : program limit u p c = .finished t) :
    part.Same (u.initial c) t := by
  have hkept := (hp.kept (u.initial c)).nodes (fun n hn => .here hn) h
  exact (hkept ⟨.refl part _, .initial _ u c⟩).1

/-- A snippet that begins a chapter and adds to a list, called twice. -/
def petProgram : Program := [
  .block .desc ⟨1, "DESC opening"⟩
    [.line ⟨2, "NEWCHAPTER"⟩, .line ⟨3, "ASSIGNLIST pets = noun + \"owl\""⟩] ⟨4, "DESCEND"⟩,
  .block .loop ⟨5, "LOOP 2"⟩ [.line ⟨6, "CALL opening"⟩] ⟨7, "LOOPEND"⟩]

theorem untouched_part_stays_pets :
    Untouched .chance petProgram ∧
    ∃ t, program 3 crewSetup petProgram ⟨fun _ => 0, 0⟩ = .finished t ∧ t.chapter = 2 ∧
      t.store.userVars.keys = ["pets"] ∧ t.chance = ⟨fun _ => 0, 0⟩ := by
  have huntouched : Untouched .chance petProgram := by
    intro n hn
    rcases Checked.cons_iff.1 hn with hdesc | hloop
    · rcases Checked.block_iff.1 hdesc with rfl | ⟨-, hbody⟩
      · rfl
      · rcases Checked.cons_iff.1 hbody with hline | hline <;>
          · obtain rfl := (Checked.line_iff _).1 hline
            decide +kernel
    · rcases Checked.block_iff.1 hloop with rfl | ⟨-, hbody⟩
      · decide +kernel
      · obtain rfl := (Checked.line_iff _).1 hbody
        decide +kernel
  have hrun : (program 3 crewSetup petProgram ⟨fun _ => 0, 0⟩).last?.any
      (fun t => t.chapter == 2 && t.store.userVars.keys == ["pets"]) = true := by
    decide +kernel
  obtain ⟨t, ht, hparts⟩ := (Option.any_eq_true _ _).1 hrun
  have hfinished := Outcome.last?_eq_some_iff.1 ht
  obtain ⟨hchapter, hkeys⟩ : t.chapter = 2 ∧ t.store.userVars.keys = ["pets"] := by
    simpa using hparts
  exact ⟨huntouched, t, hfinished, hchapter, hkeys, untouched_part_stays huntouched hfinished⟩

end Run

end ProseScript
