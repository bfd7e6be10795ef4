import Mathlib.Data.List.Forall2
import ProseScript.Format
import ProseScript.Proofs.FirstOccurrence

/-!
Formats and their letters. Main statement: a format is read back from its letters, and a text is read
just when each of its characters stands for a code. Otherwise the characters that do not are
reported.
-/

namespace ProseScript

namespace FormatCode

theorem ofUpper?_letter (code : FormatCode) : ofUpper? code.letter = some code := by
  cases code <;> rfl

theorem ofUpper?_eq_some_iff {c : Char} {code : FormatCode} :
    ofUpper? c = some code ↔ c = code.letter := by
  constructor
  · intro h
    unfold ofUpper? at h
    split at h
    all_goals first
      | exact Option.some.inj h ▸ rfl
      | cases h
  · intro h
    rw [h, ofUpper?_letter]

/-- The two tables of letters are inverse to one another, up to the case of the letter read. -/
theorem ofLetter?_eq_some_iff {c : Char} {code : FormatCode} :
    ofLetter? c = some code ↔ c.toUpper = code.letter :=
  ofUpper?_eq_some_iff

theorem toUpper_toUpper (c : Char) : c.toUpper.toUpper = c.toUpper := by
  by_cases hsmall : 'a'.val ≤ c.val ∧ c.val ≤ 'z'.val
  · have hcapital : ¬ ('a'.val ≤ c.toUpper.val ∧ c.toUpper.val ≤ 'z'.val) := by
      delta Char.toUpper
      rw [dif_pos hsmall]
      dsimp only
      grind
    exact dif_neg hcapital
  · have hsame : c.toUpper = c := dif_neg hsmall
    rw [hsame, hsame]

theorem ofLetter?_toUpper (c : Char) : ofLetter? c.toUpper = ofLetter? c := by
  rw [ofLetter?, ofLetter?, toUpper_toUpper]

end FormatCode

namespace Format

open FormatCode (ofLetter?)

/-- Each character stands for the code at its place. -/
def Spells (letters : List Char) (f : Format) : Prop :=
  List.Forall₂ (fun c code => ofLetter? c = some code) letters f

/-- The codes of the letters act on a text one after the other. -/
inductive Acts : List Char → String → String → Prop
  | nil (text : String) : Acts [] text text
  | cons {c : Char} {code : FormatCode} {letters : List Char} {text result : String}
      (hc : ofLetter? c = some code) (h : Acts letters (code.apply text) result) :
      Acts (c :: letters) text result

/-- The characters that stand for no code, in upper case. -/
def strangers (letters : List Char) : List Char :=
  (letters.map Char.toUpper).filter fun c => (ofLetter? c).isNone

theorem strangers_eq_nil_iff {letters : List Char} :
    strangers letters = [] ↔ ∀ c ∈ letters, ∃ code, ofLetter? c = some code := by
  simp [strangers, List.filter_eq_nil_iff, FormatCode.ofLetter?_toUpper, ← Option.ne_none_iff_exists']

/-- What is read from letters without a stranger among them. -/
theorem spells_filterMap {letters : List Char} (h : strangers letters = []) :
    Spells letters ((letters.map Char.toUpper).filterMap ofLetter?) := by
  rw [strangers_eq_nil_iff] at h
  induction letters with
  | nil => exact .nil
  | cons c rest ih =>
    obtain ⟨⟨code, hcode⟩, hrest⟩ := List.forall_mem_cons.1 h
    have hupper : ofLetter? c.toUpper = some code := by
      rw [FormatCode.ofLetter?_toUpper, hcode]
    rw [List.map_cons, List.filterMap_cons_some hupper]
    exact .cons hcode (ih hrest)

namespace Spells

variable {letters : List Char} {f : Format}

theorem eq (h : Spells letters f) {g : Format} (hg : Spells letters g) : f = g := by
  induction h generalizing g with
  | nil => cases hg; rfl
  | cons hc _ ih =>
    cases hg with
    | cons hc' hrest => rw [Option.some.inj (hc.symm.trans hc'), ih hrest]

theorem strangers_eq_nil (h : Spells letters f) : strangers letters = [] := by
  rw [strangers_eq_nil_iff]
  induction h with
  | nil => simp
  | cons hc _ ih => exact List.forall_mem_cons.2 ⟨⟨_, hc⟩, ih⟩

theorem map_letter (h : Spells letters f) : f.map FormatCode.letter = letters.map Char.toUpper := by
  induction h with
  | nil => rfl
  | cons hc _ ih => rw [List.map_cons, List.map_cons, ih, FormatCode.ofLetter?_eq_some_iff.1 hc]

theorem acts (h : Spells letters f) (text : String) : Acts letters text (f.apply text) := by
  induction h generalizing text with
  | nil => exact .nil text
  | cons hc _ ih => exact .cons hc (ih _)

end Spells

theorem spells_render (f : Format) : Spells f.render.toList f := by
  rw [render, String.toList_ofList]
  induction f with
  | nil => exact .nil
  | cons code rest ih => exact .cons (FormatCode.ofLetter?_letter code) ih

variable {s t : String} {f g : Format}

theorem ofText_of_no_strangers (h : strangers s.toList = []) :
    ofText s = .ok ((s.toList.map Char.toUpper).filterMap ofLetter?) := by
  have hnone : (strangers s.toList).eraseDups.isEmpty = true := by rw [h]; rfl
  exact if_pos hnone

theorem ofText_of_strangers (h : strangers s.toList ≠ []) :
    ofText s = .error ⟨(strangers s.toList).eraseDups⟩ := by
  have hsome : ¬ (strangers s.toList).eraseDups.isEmpty = true := by
    obtain ⟨c, hc⟩ := List.exists_mem_of_ne_nil _ h
    rw [List.isEmpty_iff]
    exact List.ne_nil_of_mem (List.mem_eraseDups.2 hc)
  exact if_neg hsome

theorem ofText_eq_ok_iff : ofText s = .ok f ↔ Spells s.toList f := by
  by_cases h : strangers s.toList = []
  · rw [ofText_of_no_strangers h]
    constructor
    · intro hf
      exact Except.ok.inj hf ▸ spells_filterMap h
    · intro hf
      rw [(spells_filterMap h).eq hf]
  · rw [ofText_of_strangers h]
    constructor
    · intro hf
      cases hf
    · intro hf
      exact absurd hf.strangers_eq_nil h

theorem firstOccurrences_of_ofText {e : UnknownCodes} (h : ofText s = .error e) :
    FirstOccurrences (strangers s.toList) e.letters := by
  by_cases hnone : strangers s.toList = []
  · rw [ofText_of_no_strangers hnone] at h
    cases h
  · rw [ofText_of_strangers hnone] at h
    rw [← Except.error.inj h]
    exact firstOccurrences_eraseDups _

theorem ofText_append_eq_ok_iff :
    ofText (s ++ t) = .ok f ↔ ∃ g h, ofText s = .ok g ∧ ofText t = .ok h ∧ f = g ++ h := by
  simp only [ofText_eq_ok_iff, String.toList_append, Spells]
  constructor
  · intro hf
    obtain ⟨hs, ht⟩ : Spells s.toList (f.take s.toList.length) ∧
        Spells t.toList (f.drop s.toList.length) :=
      ⟨List.forall₂_take_append f _ _ hf.flip |>.flip, List.forall₂_drop_append f _ _ hf.flip |>.flip⟩
    exact ⟨_, _, hs, ht, (List.take_append_drop _ f).symm⟩
  · rintro ⟨g, h, hg, hh, rfl⟩
    exact List.rel_append hg hh

/-- Formats and their letters. A format is read back from its letters. A text is read just when each
of its characters is, up to case, the letter of a code; the format then shows as the text in upper
case and acts as the codes of the text one after the other, so that a text joined to another acts
after it. Of a text that is not read, the characters that stand for no code are reported in upper
case, each once, in the order in which they first occur. -/
theorem formats_follow_letters (s : String) :
    (∀ f : Format, ofText f.render = .ok f) ∧
    ((∃ f, ofText s = .ok f) ↔ ∀ c ∈ s.toList, ∃ code, ofLetter? c = some code) ∧
    (∀ (c : Char) (code : FormatCode), ofLetter? c = some code ↔ c.toUpper = code.letter) ∧
    (∀ f, ofText s = .ok f → f.render = String.ofList (s.toList.map Char.toUpper) ∧
      ∀ text, Acts s.toList text (f.apply text)) ∧
    (∀ (t : String) (f : Format), ofText (s ++ t) = .ok f ↔
      ∃ g h, ofText s = .ok g ∧ ofText t = .ok h ∧ f = g ++ h) ∧
    (∀ (f g : Format) (text : String), (f ++ g).apply text = g.apply (f.apply text)) ∧
    ∀ e, ofText s = .error e → FirstOccurrences
      ((s.toList.map Char.toUpper).filter fun c => (ofLetter? c).isNone) e.letters := by
  refine ⟨fun f => ofText_eq_ok_iff.2 (spells_render f), ?_,
    fun _ _ => FormatCode.ofLetter?_eq_some_iff, ?_, fun _ _ => ofText_append_eq_ok_iff,
    fun f g text => apply_append f g text, fun _ => firstOccurrences_of_ofText⟩
  · rw [← strangers_eq_nil_iff]
    constructor
    · intro ⟨f, hf⟩
      exact (ofText_eq_ok_iff.1 hf).strangers_eq_nil
    · intro h
      exact ⟨_, ofText_of_no_strangers h⟩
  · intro f hf
    have hspells := ofText_eq_ok_iff.1 hf
    exact ⟨congrArg String.ofList hspells.map_letter, hspells.acts⟩

/-- The standard format in small letters, and a text with a stranger that occurs twice. -/
theorem formats_follow_letters_standard :
    ofText "acps" = .ok standard ∧ standard.render = "ACPS" ∧
    Acts "acps".toList "a owl" "An owl. " ∧
    ofText "a?o!?" = .error ⟨['?', 'O', '!']⟩ ∧
    FirstOccurrences ['?', 'O', '!', '?'] ['?', 'O', '!'] := by
  obtain ⟨-, -, -, hread, -⟩ := formats_follow_letters "acps"
  obtain ⟨-, -, -, -, -, -, hreport⟩ := formats_follow_letters "a?o!?"
  have hformat : ofText "acps" = .ok standard := by rfl
  have hfault : ofText "a?o!?" = .error ⟨['?', 'O', '!']⟩ := by rfl
  obtain ⟨hrender, hacts⟩ := hread standard hformat
  have htext : apply standard "a owl" = "An owl. " := by decide +kernel
  refine ⟨hformat, hrender, htext ▸ hacts "a owl", hfault, ?_⟩
  exact hreport _ hfault

end Format

end ProseScript
