import ProseScript.Proofs.Run.Reach
import ProseScript.Proofs.Run.Target
import ProseScript.Proofs.Run.Warnings

/-!
What a run keeps of its page. Main statement: output and warnings are only appended to, chapters are
not counted back, and the word count is at all times that of the output.
-/

namespace ProseScript.Run

namespace Appended

variable {s t u : State}

theorem of_eq (houtput : t.output = s.output) (hcount : t.wordCount = s.wordCount) :
    Appended [] s t :=
  ⟨by simp [houtput], by simp [hcount, WordCount.ofOutput]⟩

theorem trans {first second : List String} (hst : Appended first s t)
    (htu : Appended second t u) : Appended (first ++ second) s u where
  output := by rw [htu.output, hst.output, List.append_assoc]
  wordCount := by rw [htu.wordCount, hst.wordCount, WordCount.ofOutput_append, Nat.add_assoc]

theorem writeFixed {l : Line} {code : FormatCode} {sentence : String}
    (h : writeFixed l code sentence s = .ok t) : Appended [code.apply sentence] s t := by
  unfold Run.writeFixed at h
  split at h
  · rw [← Except.ok.inj h]
    exact ⟨by simp, by simp [State.pushSentence, WordCount.ofOutput]⟩
  · simp at h

theorem write {limit : Nat} {l : Line} (h : write limit l s = .finished t) :
    ∃ added, Appended added s t := by
  obtain ⟨p, chance, k, i, -, -, hk⟩ := times_of_write h
  obtain ⟨added, -, hadded⟩ := times_writeOne_appends hk
  exact ⟨added, hadded.output, hadded.wordCount⟩

end Appended

/-- The second state has the page of the first and perhaps more. -/
structure Grows (s t : State) : Prop where
  written : ∃ added, Appended added s t
  warned : s.warnings.toList <+: t.warnings.toList
  chapter : s.chapter ≤ t.chapter

namespace Grows

variable {s t u : State}

theorem unwritten {format : Format} {current : Option Line} {genders : Genders} {store : Store}
    {warnings : Array Warning} {shown : Array String} {chance : Chance}
    (hwarned : s.warnings.toList <+: t.warnings.toList)
    (h : t = { s with format, current, genders, store, warnings, shown, chance }) : Grows s t where
  written := ⟨[], .of_eq (by rw [h]) (by rw [h])⟩
  warned := hwarned
  chapter := by simp [h]

theorem refl (s : State) : Grows s s := unwritten List.prefix_rfl rfl

theorem trans (hst : Grows s t) (htu : Grows t u) : Grows s u := by
  obtain ⟨first, hfirst⟩ := hst.written
  obtain ⟨second, hsecond⟩ := htu.written
  exact ⟨⟨first ++ second, hfirst.trans hsecond⟩, hst.warned.trans htu.warned,
    UInt32.le_trans hst.chapter htu.chapter⟩

theorem writeFixed {l : Line} {code : FormatCode} {sentence : String}
    (h : writeFixed l code sentence s = .ok t) : Grows s t := by
  have hwarnings : t.warnings = s.warnings := by rw [frame_writeFixed h]
  have hchapter : t.chapter = s.chapter := by rw [frame_writeFixed h]
  exact ⟨⟨_, .writeFixed h⟩, hwarnings ▸ List.prefix_rfl, UInt32.le_of_eq hchapter.symm⟩

/-- A chapter that does not crash has a higher number than the one before. -/
theorem chapter_le_succ {l : Line} (hsafe : crash? .newChapter l s = none) :
    s.chapter ≤ s.chapter + 1 := by
  have hroom : s.chapter.toNat + 1 < UInt32.size := by simpa [crash?, lastChapter] using hsafe
  rw [UInt32.le_iff_toNat_le, UInt32.toNat_add]
  change s.chapter.toNat ≤ (s.chapter.toNat + 1) % UInt32.size
  rw [Nat.mod_eq_of_lt hroom]
  omega

theorem simple {c : Command} {l : Line} (hsafe : crash? c l s = none) (h : simple c l s = .ok t) :
    Grows s t := by
  have hwarned := (warned_simple h).isPrefix
  unfold Run.simple at h
  split at h
  · exact unwritten hwarned (frame_assign h)
  cases c with
  | display => exact unwritten hwarned (frame_display h)
  | format => exact unwritten hwarned (frame_setFormat h)
  | newLine => exact writeFixed h
  | newPara => exact writeFixed h
  | newChapter =>
    have hnext : Grows s { s with chapter := s.chapter + 1 } :=
      ⟨⟨[], .of_eq rfl rfl⟩, List.prefix_rfl, chapter_le_succ hsafe⟩
    exact hnext.trans (writeFixed h)
  | refGender => exact unwritten hwarned (frame_refGender h)
  | recite => exact unwritten hwarned (frame_recite h)
  | shift => exact unwritten hwarned (frame_shift h)
  | shuffle => exact unwritten hwarned (frame_shuffle h)
  | _ => simp at h

theorem write {limit : Nat} {l : Line} (h : write limit l s = .finished t) : Grows s t := by
  have hchapter : t.chapter = s.chapter := by rw [frame_write h]
  exact ⟨Appended.write h, (warned_write h).isPrefix, UInt32.le_of_eq hchapter.symm⟩

theorem generate {opener : Line} {body : List Node} (h : generate opener body s = .ok t) :
    Grows s t := by
  obtain ⟨_, _, u, -, hu, -, ht⟩ := frame_generate h
  rw [hu] at ht
  exact unwritten (warned_generate opener h).isPrefix ht

theorem carried : Carried Grows where
  refl := refl
  trans _ _ _ := trans
  begun s _ := unwritten List.prefix_rfl rfl
  drawn s _ := unwritten List.prefix_rfl rfl
  simple _ _ _ _ := simple
  write _ _ _ _ := write
  generate _ _ _ _ := generate
  snippet _ _ s t h := by
    have hwarnings : t.warnings = s.warnings := by rw [frame_storeSnippet h]
    exact unwritten (hwarnings ▸ List.prefix_rfl) (frame_storeSnippet h)

theorem isPrefix (h : Grows s t) : s.output.toList <+: t.output.toList := by
  obtain ⟨added, hadded⟩ := h.written
  exact ⟨added, hadded.output.symm⟩

theorem wordCount_le (h : Grows s t) : s.wordCount ≤ t.wordCount := by
  obtain ⟨added, hadded⟩ := h.written
  exact hadded.wordCount ▸ Nat.le_add_right _ _

theorem counted (h : Grows s t) (hs : s.wordCount = WordCount.ofOutput s.output.toList) :
    t.wordCount = WordCount.ofOutput t.output.toList := by
  obtain ⟨added, hadded⟩ := h.written
  rw [hadded.wordCount, hadded.output, WordCount.ofOutput_append, hs]

end Grows

/-- The page of a run only grows. In every state that a program leads to, the word count is that of
the output. From there on, while any nodes are run and at their end, output and warnings begin with
the earlier ones, and neither the chapter nor the word count has gone down. -/
theorem page_only_grows (u : Setup) (c : Chance) (limit : Nat) (p : Program) {s : State}
    (hs : Reaches limit p (u.initial c) s) :
    s.wordCount = WordCount.ofOutput s.output.toList ∧
    ∀ (limit' : Nat) (ns : List Node) (t : State),
      (Reaches limit' ns s t ∨
        ∃ counting progress stop, execute limit' ns counting progress stop s = .finished t) →
      s.output.toList <+: t.output.toList ∧ s.warnings.toList <+: t.warnings.toList ∧
        s.chapter ≤ t.chapter ∧ s.wordCount ≤ t.wordCount ∧
        t.wordCount = WordCount.ofOutput t.output.toList := by
  have hcounted : s.wordCount = WordCount.ofOutput s.output.toList :=
    (Grows.carried.reaches hs).counted rfl
  refine ⟨hcounted, ?_⟩
  intro limit' ns t ht
  have hreaches : Reaches limit' ns s t := by
    rcases ht with ht | ⟨_, _, _, ht⟩
    · exact ht
    · exact reaches_of_execute ht
  have hgrows := Grows.carried.reaches hreaches
  exact ⟨hgrows.isPrefix, hgrows.warned, hgrows.chapter, hgrows.wordCount_le,
    hgrows.counted hcounted⟩

/-- One line of a program, then a chapter and the same line twice over. -/
theorem page_only_grows_cat :
    let ns : List Node := [.line ⟨2, "NEWCHAPTER"⟩, .line catLine]
    ∃ s t, Reaches 3 [.line catLine] (catSetup.initial ⟨fun _ => 0, 0⟩) s ∧
      execute 3 ns .cycles 0 2 s = .finished t ∧
      s.wordCount = WordCount.ofOutput s.output.toList ∧ s.output.toList <+: t.output.toList ∧
      s.chapter ≤ t.chapter ∧ t.wordCount = WordCount.ofOutput t.output.toList := by
  intro ns
  have hruns : ((execute 3 [.line catLine] .cycles 0 1 (catSetup.initial ⟨fun _ => 0, 0⟩)).bind
      (execute 3 ns .cycles 0 2)).last?.isSome = true := by
    decide +kernel
  obtain ⟨t, ht⟩ := Outcome.exists_finished hruns
  obtain ⟨s, hs, hst⟩ := Outcome.bind_eq_finished_iff.1 ht
  have hreaches := reaches_of_execute hs
  have hgrowth := page_only_grows catSetup ⟨fun _ => 0, 0⟩ 3 [.line catLine] hreaches
  obtain ⟨houtput, -, hchapter, -, hcounted⟩ := hgrowth.2 3 ns t (.inr ⟨.cycles, 0, 2, hst⟩)
  exact ⟨s, t, hreaches, hst, hgrowth.1, houtput, hchapter, hcounted⟩

end ProseScript.Run
