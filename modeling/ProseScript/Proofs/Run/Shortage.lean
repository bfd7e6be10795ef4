import ProseScript.Proofs.Run.Writing

/-!
What keeps a proper `WRITE` line from writing. Main statement: it fails only where something that it
draws from is empty, over its word catalog or its sentences before anything is written, or over an
entry without a sentence once its place comes up.
-/

namespace ProseScript.Run

/-- The source holds nothing to write: no item or entry, or a single empty sentence. -/
def SentenceSource.Bare (source : SentenceSource) : Prop :=
  source.view.isEmpty = true ∨ source = .list [""]

/-- A `WRITE` line with valid parameters, whose names stand for sentences and for a word catalog. -/
structure ProperWrite (l : Line) (s : State) (source : SentenceSource) (words : Catalog)
    (sentencesWord wordsWord : String) (options : List String) : Prop where
  params : l.paramWords = sentencesWord :: wordsWord :: options
  few : options.length ≤ 2
  amount : ∀ text, options[0]? = some text → ∃ amount, Amount.ofText? text = some amount
  order : ∀ text, options[1]? = some text → Text.lower text = "order" ∨ Text.lower text = "random"
  sentences : s.lookup (Text.lower sentencesWord) = some source.view
  words : s.lookup (Text.lower wordsWord) = some (.catalog words)

/-- Some sentences are written by the plan of the line, and then the place of an entry without a
sentence comes up. -/
def PicksNothing (l : Line) (s : State) (entries : Catalog) : Prop :=
  ∃ p chance written i t name, writePlan l s = .ok (p, chance) ∧
    Outcome.times (writeOne l p) written
      ((startIndex p chance).1, { s with chance := (startIndex p chance).2 }) = .finished (i, t) ∧
    entries.entries[i % entries.size]? = some (name, [])

section Parts

variable {l : Line} {s : State} {source : SentenceSource} {words : Catalog} {name : String}

theorem writeWords_of_empty (h : s.lookup name = some (.catalog words)) (hempty : words.isEmpty = true) :
    ∃ f, writeWords l s name = .error f ∧ f.kind = .emptySource := by
  have hview : (View.catalog words).isEmpty = true := hempty
  simp only [writeWords, h, hview, if_true]
  exact ⟨_, rfl, rfl⟩

theorem writeWords_of_nonempty (h : s.lookup name = some (.catalog words))
    (hne : words.isEmpty = false) : writeWords l s name = .ok words := by
  have hview : (View.catalog words).isEmpty = false := hne
  simp [writeWords, h, hview]

theorem bare_iff : source.Bare ↔ (source.view.isEmpty || source.view.list? == some [""]) = true := by
  rw [Bool.or_eq_true, beq_iff_eq, SentenceSource.Bare]
  cases source <;> simp [SentenceSource.view, View.list?]

theorem writeSentences_of_bare (h : s.lookup name = some source.view) (hbare : source.Bare) :
    ∃ f, writeSentences l s name = .error f ∧ f.kind = .emptySource := by
  simp only [writeSentences, h, bare_iff.1 hbare, if_true]
  exact ⟨_, rfl, rfl⟩

theorem writeSentences_of_not_bare (h : s.lookup name = some source.view) (hbare : ¬ source.Bare) :
    writeSentences l s name = .ok source := by
  rw [bare_iff] at hbare
  simp only [writeSentences, h, if_neg hbare]
  cases source <;> rfl

theorem exists_writeAmount (c : Chance) {option : Option String}
    (h : ∀ text, option = some text → ∃ amount, Amount.ofText? text = some amount) :
    ∃ n counting c', writeAmount l c option = .ok (n, counting, c') := by
  cases option with
  | none => exact ⟨_, _, _, rfl⟩
  | some text =>
    obtain ⟨amount, hamount⟩ := h text rfl
    simp only [writeAmount, hamount]
    exact ⟨_, _, _, rfl⟩

theorem exists_writeOrder {option : Option String}
    (h : ∀ text, option = some text → Text.lower text = "order" ∨ Text.lower text = "random") :
    ∃ ordered, writeOrder l option = .ok ordered := by
  cases option with
  | none => exact ⟨_, rfl⟩
  | some text =>
    rcases h text rfl with horder | hrandom
    · exact ⟨true, by simp [writeOrder, horder]⟩
    · exact ⟨false, by simp [writeOrder, hrandom]⟩

end Parts

namespace ProperWrite

variable {l : Line} {s : State} {source : SentenceSource} {words : Catalog}
  {sentencesWord wordsWord : String} {options : List String}
  (h : ProperWrite l s source words sentencesWord wordsWord options)
include h

/-- With nothing to draw from the line has no plan. -/
theorem writePlan_of_lack (hlack : words.isEmpty = true ∨ source.Bare) :
    ∃ f, writePlan l s = .error f ∧ f.kind = .emptySource := by
  have hfew : ¬ 2 < options.length := by have := h.few; omega
  simp only [writePlan, h.params, if_neg hfew]
  cases hwords : words.isEmpty with
  | true =>
    obtain ⟨f, hf, hkind⟩ := writeWords_of_empty (l := l) h.words hwords
    exact ⟨f, by rw [hf]; rfl, hkind⟩
  | false =>
    have hbare : source.Bare := hlack.resolve_left (by simp [hwords])
    obtain ⟨f, hf, hkind⟩ := writeSentences_of_bare (l := l) h.sentences hbare
    rw [writeWords_of_nonempty h.words hwords]
    exact ⟨f, by simp only [hf]; rfl, hkind⟩

theorem exists_writePlan (hwords : words.isEmpty = false) (hbare : ¬ source.Bare) :
    ∃ p chance, writePlan l s = .ok (p, chance) ∧ p.sentences = source := by
  have hfew : ¬ 2 < options.length := by have := h.few; omega
  obtain ⟨n, counting, c, hamount⟩ := exists_writeAmount (l := l) s.chance h.amount
  obtain ⟨ordered, horder⟩ := exists_writeOrder (l := l) h.order
  simp only [writePlan, h.params, if_neg hfew, writeWords_of_nonempty h.words hwords,
    writeSentences_of_not_bare h.sentences hbare, hamount, horder]
  exact ⟨_, _, rfl, rfl⟩

end ProperWrite

/-- Nothing is picked only where the place holds an entry without a sentence. -/
theorem entry_of_pick {source : SentenceSource} (hsize : 0 < source.size) {i : Nat} {c : Chance}
    (h : (source.pick i c).1 = none) :
    ∃ entries name, source = .catalog entries ∧
      entries.entries[i % entries.size]? = some (name, []) := by
  cases source with
  | list items =>
    have hplace : i % items.length < items.length := Nat.mod_lt i hsize
    simp [SentenceSource.pick, hplace] at h
  | catalog entries =>
    have hplace : i % entries.size < entries.entries.length := Nat.mod_lt i hsize
    have hnone := (Chance.choose_eq_none_iff _ c).1 h
    obtain ⟨⟨name, sentences⟩, hentry⟩ : ∃ e, entries.entries[i % entries.size]? = some e :=
      ⟨_, List.getElem?_eq_getElem hplace⟩
    simp only [SentenceSource.options, hentry, Option.map_some, Option.getD_some] at hnone
    exact ⟨entries, name, rfl, hnone ▸ hentry⟩

theorem pick_of_writeOne_failed {l : Line} {p : WritePlan} {i : Nat} {t : State} {f : Fault}
    {shown : Array String} (h : writeOne l p (i, t) = .failed f shown) :
    f.kind = .parameterValue ∧ (p.sentences.pick i t.chance).1 = none := by
  simp only [writeOne] at h
  split at h
  · next hpick =>
    obtain ⟨rfl, -⟩ := Outcome.failed.inj h
    exact ⟨rfl, by rw [hpick]⟩
  · cases h

/-- Once a line has its plan it fails only over an entry without a sentence. -/
theorem picksNothing_of_write {limit : Nat} {l : Line} {s : State} {p : WritePlan} {chance : Chance}
    (hplan : writePlan l s = .ok (p, chance)) {f : Fault} {shown : Array String}
    (h : write limit l s = .failed f shown) :
    f.kind = .parameterValue ∧ ∃ entries, p.sentences = .catalog entries ∧ PicksNothing l s entries := by
  obtain ⟨sentencesWord, wordsWord, options, -, hmeets⟩ := meets_of_writePlan hplan
  rcases cases_of_write_failed h with hfault | ⟨p', chance', written, ⟨i, t⟩, hplan', hwritten, hone⟩
  · simp [hplan] at hfault
  · obtain ⟨rfl, rfl⟩ := Prod.mk.inj (Except.ok.inj (hplan.symm.trans hplan'))
    obtain ⟨hkind, hpick⟩ := pick_of_writeOne_failed hone
    obtain ⟨entries, name, hsource, hentry⟩ := entry_of_pick hmeets.nonempty hpick
    exact ⟨hkind, entries, hsource, p, chance, written, i, t, name, hplan, hwritten, hentry⟩

/-- A proper `WRITE` line fails only over something empty that it draws from. Over an empty word
catalog and over sentences with nothing to write it always fails, and over nothing else is its fault
that of an empty source; over an entry without a sentence, which it meets only when the entry is
picked, its fault is that of a wrong value. -/
theorem writing_fails_for_lack {l : Line} {s : State} {source : SentenceSource} {words : Catalog}
    {sentencesWord wordsWord : String} {options : List String}
    (h : ProperWrite l s source words sentencesWord wordsWord options) (limit : Nat) :
    (words.isEmpty = true ∨ source.Bare ↔
      ∃ f shown, write limit l s = .failed f shown ∧ f.kind = .emptySource) ∧
    ∀ f shown, write limit l s = .failed f shown → f.kind ≠ .emptySource →
      f.kind = .parameterValue ∧ ∃ entries, source = .catalog entries ∧ PicksNothing l s entries := by
  have hlack (hlack : words.isEmpty = true ∨ source.Bare) :
      ∃ f, write limit l s = .failed f s.shown ∧ f.kind = .emptySource := by
    obtain ⟨f, hf, hkind⟩ := h.writePlan_of_lack hlack
    exact ⟨f, by rw [write, hf], hkind⟩
  have hpicks (hplenty : ¬ (words.isEmpty = true ∨ source.Bare)) {f : Fault} {shown : Array String}
      (hf : write limit l s = .failed f shown) :
      f.kind = .parameterValue ∧ ∃ entries, source = .catalog entries ∧ PicksNothing l s entries := by
    obtain ⟨hwords, hbare⟩ := not_or.1 hplenty
    obtain ⟨p, chance, hplan, rfl⟩ := h.exists_writePlan (Bool.eq_false_iff.2 hwords) hbare
    exact picksNothing_of_write hplan hf
  refine ⟨⟨?_, ?_⟩, ?_⟩
  · intro hempty
    obtain ⟨f, hf, hkind⟩ := hlack hempty
    exact ⟨f, s.shown, hf, hkind⟩
  · intro hfails
    obtain ⟨f, shown, hf, hkind⟩ := hfails
    by_contra hplenty
    obtain ⟨hvalue, -⟩ := hpicks hplenty hf
    rw [hvalue] at hkind
    cases hkind
  · intro f shown hf hkind
    refine hpicks (fun hempty => hkind ?_) hf
    obtain ⟨f', hf', hkind'⟩ := hlack hempty
    obtain ⟨rfl, -⟩ := Outcome.failed.inj (hf.symm.trans hf')
    exact hkind'

/-- Two sentence sets, the second of them without a sentence. -/
def hollowState : State :=
  (Setup.mk (.ofEntries [("noun", ["cat"])]) (.ofEntries [("steps", ["one"]), ("hollow", [])])
    .standard .standard "w" "s").initial ⟨fun _ => 0, 0⟩

def hollowLine : Line := ⟨1, "WRITE s w 3 ORDER"⟩

theorem properWrite_hollow :
    ProperWrite hollowLine hollowState (.catalog ⟨[("steps", ["one"]), ("hollow", [])]⟩)
      ⟨[("noun", ["cat"])]⟩ "s" "w" ["3", "ORDER"] := by
  have hlower : Text.lower "s" = "s" ∧ Text.lower "w" = "w" := by decide +kernel
  have hslots : hollowState.store.locate "s" .all = some (.vocabulary .sentences) ∧
      hollowState.store.locate "w" .all = some (.vocabulary .words) := by decide +kernel
  have hamount : Amount.ofText? "3" = some (.count 3) := by decide
  have horder : Text.lower "ORDER" = "order" := by decide +kernel
  refine ⟨by decide +kernel, le_refl _, ?_, ?_, ?_, ?_⟩
  · intro text htext
    obtain rfl : "3" = text := Option.some.inj htext
    exact ⟨_, hamount⟩
  · intro text htext
    obtain rfl : "ORDER" = text := Option.some.inj htext
    exact .inl horder
  · simp only [State.lookup, Store.lookup, hlower, hslots]
    rfl
  · simp only [State.lookup, Store.lookup, hlower, hslots]
    rfl

theorem write_hollow :
    ∃ f shown, write 0 hollowLine hollowState = .failed f shown ∧ f.kind = .parameterValue := by
  have hkind : (write 0 hollowLine hollowState).fault?.map Fault.kind = some .parameterValue := by
    decide +kernel
  obtain ⟨f, hf, hvalue⟩ := Option.map_eq_some_iff.1 hkind
  obtain ⟨shown, hwrite⟩ := Outcome.exists_failed hf
  exact ⟨f, shown, hwrite, hvalue⟩

/-- The first sentence is written, and the second place has none. -/
theorem writing_fails_for_lack_hollow :
    ProperWrite hollowLine hollowState (.catalog ⟨[("steps", ["one"]), ("hollow", [])]⟩)
      ⟨[("noun", ["cat"])]⟩ "s" "w" ["3", "ORDER"] ∧
    ∃ f shown, write 0 hollowLine hollowState = .failed f shown ∧ f.kind = .parameterValue ∧
      PicksNothing hollowLine hollowState ⟨[("steps", ["one"]), ("hollow", [])]⟩ := by
  have hproper := properWrite_hollow
  obtain ⟨f, shown, hwrite, hvalue⟩ := write_hollow
  have hother : f.kind ≠ .emptySource := by simp [hvalue]
  obtain ⟨-, entries, hsource, hpicks⟩ :=
    (writing_fails_for_lack hproper 0).2 f shown hwrite hother
  obtain rfl := SentenceSource.catalog.inj hsource
  exact ⟨hproper, f, shown, hwrite, hvalue, hpicks⟩

/-- An entry without a sentence is not reported as an empty source. -/
theorem empty_entry_is_wrong_value :
    ¬ ∀ (l : Line) (s : State) (source : SentenceSource) (words : Catalog)
      (sentencesWord wordsWord : String) (options : List String) (limit : Nat) (f : Fault)
      (shown : Array String), ProperWrite l s source words sentencesWord wordsWord options →
        write limit l s = .failed f shown → f.kind = .emptySource := by
  intro h
  obtain ⟨f, shown, hwrite, hvalue⟩ := write_hollow
  have hempty := h _ _ _ _ _ _ _ 0 f shown properWrite_hollow hwrite
  rw [hvalue] at hempty
  cases hempty

end ProseScript.Run
