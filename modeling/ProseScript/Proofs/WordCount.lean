import Mathlib.Data.Bool.AllAny
import ProseScript.Format.Code
import ProseScript.Proofs.Text.Enclosed
import ProseScript.Proofs.Text.Name
import ProseScript.WordCount

/-!
Words and markup. Main statement: a format code leaves the number of words of a plain sentence as it
is, but for the heading, whose mark is subtracted twice.
-/

namespace ProseScript.WordCount

open Text (isBlank Firm holdsChars trimChars)

/-- The characters that tell markers from spaces. -/
def marks : List Char := ['\n', '#', '>', '-']

/-- A character of no marker, which no trimming takes away. -/
def Solid (c : Char) : Prop := isBlank c = false ∧ c ∉ marks

/-- A sentence with no mark in it and no blank at its ends. -/
structure Plain (cs : List Char) : Prop extends Firm cs where
  unmarked : ∀ c ∈ cs, c ∉ marks

section Markers

variable {m : String}

theorem marker_chars : ∀ m ∈ markers, ∀ c ∈ m.toList, c = ' ' ∨ c ∈ marks := by
  have hall : markers.all (fun m => m.toList.all fun c => c = ' ' ∨ c ∈ marks) = true := by decide
  intro m hm
  exact List.all_iff_forall_prop.1 (List.all_eq_true.1 hall m hm)

theorem marker_has_mark : ∀ m ∈ markers, ∃ c ∈ m.toList, c ∈ marks := by
  have hall : markers.all (fun m => m.toList.any (· ∈ marks)) = true := by decide
  intro m hm
  exact List.any_iff_exists_prop.1 (List.all_eq_true.1 hall m hm)

theorem Solid.not_mem_marker {c : Char} (h : Solid c) (hm : m ∈ markers) : c ∉ m.toList := by
  intro hc
  rcases marker_chars m hm c hc with rfl | hmark
  · exact absurd h.1 (by decide)
  · exact h.2 hmark

variable {cs : List Char} (h : Plain cs)
include h

theorem Plain.holdsChars_eq_false (hm : m ∈ markers) : holdsChars m.toList cs = false := by
  obtain ⟨c, hc, hmark⟩ := marker_has_mark m hm
  rw [Bool.eq_false_iff]
  intro hholds
  exact h.unmarked c (Text.mem_of_holdsChars hholds hc) hmark

/-- A marker around a plain sentence stands before it or after it. -/
theorem Plain.holdsChars_around (hm : m ∈ markers) (front back : List Char) :
    holdsChars m.toList (front ++ cs ++ back) =
      (holdsChars m.toList front || holdsChars m.toList back) := by
  have hne : m.toList ≠ [] := by
    obtain ⟨c, hc, -⟩ := marker_has_mark m hm
    exact List.ne_nil_of_mem hc
  have hfirst : ∀ c ∈ cs.head?, c ∉ m.toList := by
    intro c hc
    exact Solid.not_mem_marker ⟨h.first c hc, h.unmarked c (List.mem_of_mem_head? hc)⟩ hm
  have hlast : ∀ c ∈ cs.getLast?, c ∉ m.toList := by
    intro c hc
    exact Solid.not_mem_marker ⟨h.last c hc, h.unmarked c (List.mem_of_mem_getLast? hc)⟩ hm
  rw [Text.holdsChars_append hne h.ne_nil hfirst hlast, h.holdsChars_eq_false hm, Bool.or_false]

end Markers

section Spaces

theorem ne_space_of_ink {c : Char} (h : isBlank c = false) : c ≠ ' ' := by
  intro hspace
  rw [hspace] at h
  exact absurd h (by decide)

theorem spaceRuns_cons {c : Char} (hc : c ≠ ' ') (inside : Bool) (cs : List Char) :
    spaceRuns inside (c :: cs) = spaceRuns false cs := by
  simp [spaceRuns, hc]

/-- No run of spaces goes over another character. -/
theorem spaceRuns_append_cons {c : Char} (hc : c ≠ ' ') (inside : Bool) (xs ys : List Char) :
    spaceRuns inside (xs ++ c :: ys) = spaceRuns inside xs + spaceRuns false ys := by
  induction xs generalizing inside with
  | nil => simp [spaceRuns, hc]
  | cons x xs ih =>
    rw [List.cons_append]
    simp only [spaceRuns, ih]
    split <;> omega

theorem spaceRuns_append_ink {xs : List Char} (hxs : ∀ x ∈ xs, x ≠ ' ') (ys : List Char) :
    spaceRuns false (xs ++ ys) = spaceRuns false ys := by
  induction xs with
  | nil => rfl
  | cons x xs ih =>
    obtain ⟨hx, hrest⟩ := List.forall_mem_cons.1 hxs
    rw [List.cons_append, spaceRuns_cons hx, ih hrest]

theorem spaceRuns_around {cs : List Char} (h : Firm cs) (front back : List Char) :
    spaceRuns false (front ++ cs ++ back) =
      spaceRuns false front + spaceRuns false cs + spaceRuns false back := by
  have hleft : spaceRuns false (front ++ cs) = spaceRuns false front + spaceRuns false cs := by
    obtain ⟨c, rest, rfl, hc⟩ := h.exists_cons
    rw [spaceRuns_append_cons (ne_space_of_ink hc), spaceRuns_cons (ne_space_of_ink hc)]
  have hright : spaceRuns false (front ++ cs ++ back) =
      spaceRuns false (front ++ cs) + spaceRuns false back := by
    obtain ⟨inner, c, rfl, hc⟩ := h.exists_concat
    have hwhole := spaceRuns_append_cons (ne_space_of_ink hc) false (front ++ inner) back
    have hself := spaceRuns_append_cons (ne_space_of_ink hc) false (front ++ inner) []
    simp only [List.append_assoc, List.singleton_append] at hwhole hself ⊢
    rw [hwhole, hself]
    simp [spaceRuns]
  rw [hright, hleft]

end Spaces

/-- The words of a plain sentence between other texts: one more than its spaces and those that the
other texts keep in sight, less one for each kind of marker in these. -/
theorem ofSentence_around {cs : List Char} (h : Plain cs) (front back : List Char) :
    ofSentence (String.ofList (front ++ cs ++ back)) =
      1 + (spaceRuns false (front.dropWhile isBlank) + spaceRuns false cs +
        spaceRuns false (back.rdropWhile isBlank)) -
      (markers.filter fun m => holdsChars m.toList front || holdsChars m.toList back).length := by
  have hmarkers : markers.filter (Text.holds (String.ofList (front ++ cs ++ back))) =
      markers.filter fun m => holdsChars m.toList front || holdsChars m.toList back := by
    apply List.filter_congr
    intro m hm
    rw [Text.holds, String.toList_ofList, h.holdsChars_around hm]
  have htrimmed := Text.trimChars_append front back h.toFirm
  have hsome : (front.dropWhile isBlank ++ cs ++ back.rdropWhile isBlank).isEmpty = false := by
    simp [h.ne_nil]
  rw [ofSentence, hmarkers, String.toList_ofList, htrimmed]
  simp only [hsome, Bool.false_eq_true, if_false]
  rw [spaceRuns_around h.toFirm]

theorem ofSentence_of_plain {cs : List Char} (h : Plain cs) :
    ofSentence (String.ofList cs) = 1 + spaceRuns false cs := by
  have hsentence := ofSentence_around h [] []
  have hnone : (markers.filter fun m =>
      holdsChars m.toList [] || holdsChars m.toList []).length = 0 := by
    decide
  rw [hnone] at hsentence
  simpa [spaceRuns] using hsentence

/-- The same text with some solid characters written as others. -/
inductive Respelled : List Char → List Char → Prop
  | nil : Respelled [] []
  | same {cs ds : List Char} (c : Char) (h : Respelled cs ds) : Respelled (c :: cs) (c :: ds)
  | solid {c : Char} {xs cs ds : List Char} (hc : Solid c) (hne : xs ≠ [])
      (hxs : ∀ x ∈ xs, Solid x) (h : Respelled cs ds) : Respelled (c :: cs) (xs ++ ds)

namespace Respelled

variable {cs ds : List Char}

theorem refl (cs : List Char) : Respelled cs cs := by
  induction cs with
  | nil => exact .nil
  | cons c cs ih => exact .same c ih

theorem spaceRuns_eq (h : Respelled cs ds) (inside : Bool) :
    spaceRuns inside ds = spaceRuns inside cs := by
  induction h generalizing inside with
  | nil => rfl
  | same c h ih => simp only [spaceRuns, ih]
  | @solid c xs cs ds hc hne hxs h ih =>
    have hink : ∀ x ∈ xs, x ≠ ' ' := fun x hx => ne_space_of_ink (hxs x hx).1
    obtain ⟨x, rest, rfl⟩ := List.exists_cons_of_ne_nil hne
    obtain ⟨hx, hrest⟩ := List.forall_mem_cons.1 hink
    rw [List.cons_append, spaceRuns_cons hx, spaceRuns_append_ink hrest, ih,
      spaceRuns_cons (ne_space_of_ink hc.1)]

theorem unmarked (h : Respelled cs ds) (hcs : ∀ c ∈ cs, c ∉ marks) : ∀ d ∈ ds, d ∉ marks := by
  induction h with
  | nil => simp
  | same c h ih =>
    obtain ⟨hc, hrest⟩ := List.forall_mem_cons.1 hcs
    exact List.forall_mem_cons.2 ⟨hc, ih hrest⟩
  | solid hc hne hxs h ih =>
    intro d hd
    rcases List.mem_append.1 hd with hd | hd
    · exact (hxs d hd).2
    · exact ih (List.forall_mem_cons.1 hcs).2 d hd

/-- The first character stays, or is solid in place of a solid one. -/
theorem first (h : Respelled cs ds) (hcs : ∀ c ∈ cs.head?, isBlank c = false) :
    ∀ d ∈ ds.head?, isBlank d = false := by
  cases h with
  | nil => simp
  | same c h => simpa using hcs
  | solid hc hne hxs h =>
    intro d hd
    rw [List.head?_append_of_ne_nil _ hne] at hd
    exact (hxs d (List.mem_of_mem_head? hd)).1

theorem ne_nil (h : Respelled cs ds) (hcs : cs ≠ []) : ds ≠ [] := by
  cases h with
  | nil => exact absurd rfl hcs
  | same c h => simp
  | solid hc hne hxs h => simp [hne]

theorem last (h : Respelled cs ds) (hcs : ∀ c ∈ cs.getLast?, isBlank c = false) :
    ∀ d ∈ ds.getLast?, isBlank d = false := by
  induction h with
  | nil => simp
  | @same cs ds c h ih =>
    by_cases hnil : cs = []
    · subst hnil
      cases h
      exact hcs
    · rw [List.getLast?_cons_of_ne_nil hnil] at hcs
      rw [List.getLast?_cons_of_ne_nil (h.ne_nil hnil)]
      exact ih hcs
  | @solid c xs cs ds hc hne hxs h ih =>
    by_cases hnil : cs = []
    · subst hnil
      cases h
      intro d hd
      rw [List.append_nil] at hd
      exact (hxs d (List.mem_of_mem_getLast? hd)).1
    · rw [List.getLast?_cons_of_ne_nil hnil] at hcs
      rw [List.getLast?_append_of_ne_nil _ (h.ne_nil hnil)]
      exact ih hcs

theorem plain (h : Respelled cs ds) (hcs : Plain cs) : Plain ds where
  ne_nil := h.ne_nil hcs.ne_nil
  first := h.first hcs.first
  last := h.last hcs.last
  unmarked := h.unmarked hcs.unmarked

theorem ofSentence_eq (h : Respelled cs ds) (hcs : Plain cs) :
    ofSentence (String.ofList ds) = ofSentence (String.ofList cs) := by
  rw [ofSentence_of_plain hcs, ofSentence_of_plain (h.plain hcs), h.spaceRuns_eq]

end Respelled

section Letters

/-- The code points of blanks and marks. -/
def loose : List Nat :=
  Text.blankSpans.flatMap (fun s => List.range' s.1 (s.2 - s.1 + 1)) ++ marks.map Char.toNat

theorem solid_of_not_mem_loose {c : Char} (h : c.toNat ∉ loose) : Solid c := by
  simp only [loose, List.mem_append, not_or] at h
  constructor
  · rw [Bool.eq_false_iff]
    intro hblank
    obtain ⟨s, hs, hfirst, hlast⟩ := Text.Span.mem_of_anyHolds hblank
    exact h.1 (List.mem_flatMap.2 ⟨s, hs, List.mem_range'_1.2 ⟨hfirst, by omega⟩⟩)
  · exact fun hmark => h.2 (List.mem_map_of_mem hmark)

theorem no_loose_letter : ∀ n ∈ loose, Text.Span.anyHolds Text.letterSpans n = false := by
  decide +kernel

theorem solid_of_isLetter {c : Char} (h : Text.isLetter c = true) : Solid c := by
  apply solid_of_not_mem_loose
  intro hloose
  simp [Text.isLetter, no_loose_letter _ hloose] at h

/-- The code points that upper case changes others to, and zero. -/
def uppered : List Nat :=
  0 :: (Text.upperRuns.flatMap Text.CaseRun.images ++ Text.upperExpansions.flatMap Prod.snd)

theorem loose_disjoint_uppered : Text.bitsOf loose &&& Text.bitsOf uppered = 0 := by
  decide +kernel

theorem upperExpansions_ne_nil : ∀ e ∈ Text.upperExpansions, e.2 ≠ [] := by
  decide +kernel

theorem solid_of_mem_upperChar {c d : Char} (hc : Text.isLetter c = true)
    (hd : d ∈ Text.upperChar c) : Solid d := by
  rcases Text.mapCase_cases Text.upperRuns Text.upperExpansions c with hself | himage
  · rw [Text.upperChar, hself] at hd
    exact List.mem_singleton.1 hd ▸ solid_of_isLetter hc
  · obtain ⟨n, hn, rfl⟩ := himage d hd
    apply solid_of_not_mem_loose
    apply Text.not_mem_of_bitsOf loose_disjoint_uppered
    rcases Text.toNat_ofNat_cases n with hsame | hzero
    · rw [hsame]
      exact List.mem_cons_of_mem 0 hn
    · rw [hzero]
      exact List.mem_cons_self

theorem upperChar_ne_nil (c : Char) : Text.upperChar c ≠ [] := by
  unfold Text.upperChar Text.mapCase
  split
  · simp
  · split
    · simp
    · split
      · next ns hexp =>
        obtain ⟨front, back, hparts, -⟩ := List.lookup_eq_some_iff.1 hexp
        have hentry : (c.toNat, ns) ∈ Text.upperExpansions := by simp [hparts]
        simpa using upperExpansions_ne_nil _ hentry
      · simp

end Letters

section Codes

open FormatCode (joinArticles articles capitalizeLetter)

theorem respelled_joinArticles {article ending : Char} (harticle : Solid article)
    (hending : Solid ending) (isVowel : Char → Bool) (ready : Bool) (cs : List Char) :
    Respelled cs (joinArticles article ending isVowel ready cs) := by
  fun_induction joinArticles article ending isVowel ready cs with
  | case1 => exact .nil
  | case2 ready c v rest hmatch ih =>
    simp only [Bool.and_eq_true, beq_iff_eq] at hmatch
    obtain ⟨⟨-, rfl⟩, -⟩ := hmatch
    have hboth : ∀ x ∈ [c, ending], Solid x := by
      simp [harticle, hending]
    exact .solid harticle (by simp) hboth (.same ' ' (.same v ih))
  | case3 ready c v rest hmatch ih => exact .same c ih
  | case4 ready c rest _ ih => exact .same c ih

theorem respelled_capitalizeLetter (cs : List Char) : Respelled cs (capitalizeLetter cs) := by
  induction cs with
  | nil => exact .nil
  | cons c rest ih =>
    rw [capitalizeLetter]
    split
    · next hletter =>
      exact .solid (solid_of_isLetter hletter) (upperChar_ne_nil c)
        (fun d hd => solid_of_mem_upperChar hletter hd) (.refl rest)
    · exact .same c ih

/-- What a code puts before and after a sentence; two codes change the sentence instead. -/
def markup : FormatCode → String × String
  | .article | .capitalize | .plain => ("", "")
  | .period => ("", ".")
  | .space => ("", " ")
  | .question => ("", "?")
  | .exclaim => ("", "!")
  | .comma => ("", ",")
  | .newline => ("", "\n")
  | .quote => ("\"", "\"")
  | .bold => (" **", "** ")
  | .italic => (" *", "* ")
  | .lineBefore => ("  \n", "")
  | .ruleAfter => ("", "  \n\n---   \n")
  | .ruleBefore => ("  \n\n---   \n", "")
  | .lineAfter => ("", "  \n")
  | .paragraphBefore => ("\n\n", "")
  | .paragraphAfter => ("", "\n\n")
  | .blockquote => ("  \n> ", "")
  | .heading => ("  \n# ", "  \n")
  | .subheading => ("  \n## ", "  \n")

theorem apply_eq_markup {code : FormatCode} (harticle : code ≠ .article)
    (hcapital : code ≠ .capitalize) (s : String) :
    code.apply s =
      String.ofList ((markup code).1.toList ++ s.toList ++ (markup code).2.toList) := by
  rw [← String.toList_inj, String.toList_ofList]
  cases code <;> simp [FormatCode.apply, markup] at harticle hcapital ⊢

/-- The markers of a code are as many as the words that its markup would count for, but for the
heading, which holds one marker inside another. -/
theorem markers_markup (code : FormatCode) :
    (markers.filter fun m => holdsChars m.toList (markup code).1.toList ||
      holdsChars m.toList (markup code).2.toList).length =
        spaceRuns false ((markup code).1.toList.dropWhile isBlank) +
          spaceRuns false ((markup code).2.toList.rdropWhile isBlank) +
            if code = .heading then 1 else 0 := by
  cases code <;> decide

variable {s : String} (h : Plain s.toList)
include h

theorem ofSentence_article : ofSentence (FormatCode.article.apply s) = ofSentence s := by
  obtain ⟨ha, hn, hA, hN⟩ : Solid 'a' ∧ Solid 'n' ∧ Solid 'A' ∧ Solid 'N' := by
    refine ⟨?_, ?_, ?_, ?_⟩ <;> exact solid_of_not_mem_loose (by decide)
  have hsmall := respelled_joinArticles ha hn "aeiou".toList.contains true s.toList
  have hbig := respelled_joinArticles hA hN "AEIOU".toList.contains true
    (joinArticles 'a' 'n' "aeiou".toList.contains true s.toList)
  rw [FormatCode.apply, articles, hbig.ofSentence_eq (hsmall.plain h), hsmall.ofSentence_eq h,
    String.ofList_toList]

theorem ofSentence_capitalize : ofSentence (FormatCode.capitalize.apply s) = ofSentence s := by
  rw [FormatCode.apply, (respelled_capitalizeLetter s.toList).ofSentence_eq h, String.ofList_toList]

theorem ofSentence_apply (code : FormatCode) :
    ofSentence (code.apply s) + (if code = .heading then 1 else 0) = ofSentence s := by
  by_cases harticle : code = .article
  · simp only [harticle, reduceCtorEq, if_false, Nat.add_zero, ofSentence_article h]
  by_cases hcapital : code = .capitalize
  · simp only [hcapital, reduceCtorEq, if_false, Nat.add_zero, ofSentence_capitalize h]
  have hs : ofSentence s = 1 + spaceRuns false s.toList := by
    rw [← ofSentence_of_plain h, String.ofList_toList]
  rw [apply_eq_markup harticle hcapital, ofSentence_around h, markers_markup, hs]
  split <;> omega

end Codes

/-- What format codes do to the number of words in a sentence that is not blank at its ends and has no
line feed and no mark. No code adds words to it, and no code but the heading hides one; a heading
counts for one word less than its sentence. -/
theorem codes_keep_word_count {s : String} (hne : s ≠ "") (htrim : Text.trim s = s)
    (hplain : ∀ c ∈ ['\n', '#', '>', '-'], c ∉ s.toList) :
    (∀ code : FormatCode, code ≠ .heading → ofSentence (code.apply s) = ofSentence s) ∧
      ofSentence (FormatCode.heading.apply s) + 1 = ofSentence s := by
  have hfirm : Firm s.toList := by
    apply Firm.of_trimChars
    · simpa using hne
    · rw [← Text.toList_trim, htrim]
  have h : Plain s.toList := ⟨hfirm, fun c hc hmark => hplain c hmark hc⟩
  constructor
  · intro code hcode
    simpa [hcode] using ofSentence_apply h code
  · exact ofSentence_apply h .heading

theorem codes_keep_word_count_owl :
    let s := "a owl sat"
    s ≠ "" ∧ Text.trim s = s ∧ (∀ c ∈ ['\n', '#', '>', '-'], c ∉ s.toList) ∧
      ofSentence (FormatCode.article.apply s) = 3 ∧
      ofSentence (FormatCode.ruleBefore.apply s) = 3 ∧
      ofSentence (FormatCode.heading.apply s) = 2 := by
  intro s
  have hne : s ≠ "" := by decide
  have htrim : Text.trim s = s := by decide +kernel
  have hplain : ∀ c ∈ ['\n', '#', '>', '-'], c ∉ s.toList :=
    List.all_iff_forall_prop.1 (by decide)
  have hcount : ofSentence s = 3 := by decide +kernel
  obtain ⟨hcodes, hheading⟩ := codes_keep_word_count hne htrim hplain
  refine ⟨hne, htrim, hplain, ?_, ?_, ?_⟩
  · rw [hcodes .article (by decide), hcount]
  · rw [hcodes .ruleBefore (by decide), hcount]
  · omega

/-- A heading of one word counts for none. -/
theorem heading_hides_word :
    ¬ ∀ (code : FormatCode) (s : String), s ≠ "" → Text.trim s = s →
      (∀ c ∈ ['\n', '#', '>', '-'], c ∉ s.toList) → ofSentence (code.apply s) = ofSentence s := by
  intro h
  have hplain : ∀ c ∈ ['\n', '#', '>', '-'], c ∉ "Top".toList :=
    List.all_iff_forall_prop.1 (by decide)
  have hword := h .heading "Top" (by decide) (by decide +kernel) hplain
  revert hword
  decide +kernel

end ProseScript.WordCount
