import ProseScript.Command
import ProseScript.Program

/-!
Openers, closers and commands. Upper case leaves blanks alone, so the upper-case text of a line is
its keyword up to the first blank, and no line both opens and closes a block. It leaves the mark of
comments alone as well, so no comment has a command or a part in a block's bounds.
-/

namespace ProseScript

namespace Text

/-- The characters that are not blank. -/
def isInk (c : Char) : Bool := !isBlank c

/-- No case run and no expansion touches a blank. -/
theorem upper_tables_of_blank : ∀ s ∈ blankSpans, ∀ n ∈ List.range' s.1 (s.2 - s.1 + 1),
    CaseRun.image? upperRuns n = none ∧ (n < 128 ∨ upperExpansions.lookup n = none) := by
  decide +kernel

theorem upperChar_of_isBlank {c : Char} (h : isBlank c = true) : upperChar c = [c] := by
  obtain ⟨s, hs, hfirst, hlast⟩ := Span.mem_of_anyHolds h
  have hmem : c.toNat ∈ List.range' s.1 (s.2 - s.1 + 1) := by
    rw [List.mem_range'_1]
    omega
  obtain ⟨hrun, hexp⟩ := upper_tables_of_blank s hs c.toNat hmem
  unfold upperChar mapCase
  rw [hrun]
  rcases hexp with hlow | hnone
  · simp [hlow]
  · simp [hnone]

/-- A pending word goes on to the next blank. -/
theorem wordsFrom_pending {word : List Char} (hw : word ≠ []) (cs : List Char) :
    wordsFrom word cs =
      (word.reverse ++ cs.takeWhile isInk) :: wordsFrom [] (cs.dropWhile isInk) := by
  induction cs generalizing word with
  | nil => simp [wordsFrom, hw]
  | cons c rest ih =>
    cases hc : isBlank c with
    | true => simp [wordsFrom, isInk, hc, hw]
    | false =>
      have hnext := ih (show c :: word ≠ [] by simp)
      simpa [wordsFrom, isInk, hc] using hnext

/-- A text that begins with ink begins with its first word. -/
theorem words_of_ink {s : String} {c : Char} {rest : List Char} (hs : s.toList = c :: rest)
    (hc : isBlank c = false) :
    (words s).headD "" = String.ofList (s.toList.takeWhile isInk) := by
  have hfirst : wordsFrom [] (c :: rest) = wordsFrom [c] rest := by simp [wordsFrom, hc]
  rw [words, hs, hfirst, wordsFrom_pending (by simp)]
  simp [isInk, hc]

/-- The upper case of a text begins with a blank, or is that of its first word and then nothing or a
blank. -/
theorem upper_cases (s : String) :
    (∃ b rest, isBlank b = true ∧ (upper s).toList = b :: rest) ∨
    ∃ rest, (upper s).toList = (upper ((words s).headD "")).toList ++ rest ∧
      ∀ b ∈ rest.head?, isBlank b = true := by
  cases htext : s.toList with
  | nil =>
    have hempty : s = "" := String.toList_eq_nil_iff.1 htext
    exact .inr ⟨[], by simp [hempty, words, wordsFrom], by simp⟩
  | cons c rest =>
    cases hc : isBlank c with
    | true =>
      refine .inl ⟨c, rest.flatMap upperChar, hc, ?_⟩
      rw [toList_upper, htext, List.flatMap_cons, upperChar_of_isBlank hc, List.singleton_append]
    | false =>
      refine .inr ⟨(s.toList.dropWhile isInk).flatMap upperChar, ?_, ?_⟩
      · rw [words_of_ink htext hc, toList_upper, toList_upper, String.toList_ofList,
          ← List.flatMap_append, List.takeWhile_append_dropWhile]
      · intro b hb
        cases hrest : s.toList.dropWhile isInk with
        | nil => simp [hrest] at hb
        | cons d ds =>
          have hd : isBlank d = true := by
            have hhead := List.head_dropWhile_not isInk (l := s.toList) (by simp [hrest])
            simpa [hrest, isInk] using hhead
          rw [hrest, List.flatMap_cons, upperChar_of_isBlank hd] at hb
          have hbd : d = b := by simpa using hb
          rw [← hbd]
          exact hd

theorem upper_of_comment {s : String} {rest : List Char} (h : s.toList = '#' :: rest) :
    (upper s).toList = '#' :: rest.flatMap upperChar := by
  have hmark : upperChar '#' = ['#'] := by decide +kernel
  rw [toList_upper, h, List.flatMap_cons, hmark, List.singleton_append]

/-- No letter that begins a closing word, or follows an opening word in one, is blank. -/
theorem ne_of_isBlank {b : Char} (hb : isBlank b = true) :
    b ≠ 'L' ∧ b ≠ 'G' ∧ b ≠ 'D' ∧ b ≠ 'E' := by
  refine ⟨?_, ?_, ?_, ?_⟩ <;>
    · rintro rfl
      revert hb
      decide

end Text

namespace Line

open Text (upper startsWith)

theorem isCloser_eq_chars (l : Line) {cs : List Char} (h : (upper l.text).toList = cs) :
    l.isCloser = ("LOOPEND".toList.isPrefixOf cs || "GENEND".toList.isPrefixOf cs ||
      "DESCEND".toList.isPrefixOf cs || cs == "END".toList) := by
  have hend : (upper l.text == "END") = (cs == "END".toList) := by
    rw [← h, Bool.eq_iff_iff, beq_iff_eq, beq_iff_eq, String.toList_inj]
  rw [isCloser, hend, startsWith, startsWith, startsWith, h]

/-- No line is both an opener and a closer. -/
theorem isCloser_of_ofOpener? {l : Line} {kind : BlockKind}
    (h : BlockKind.ofOpener? l = some kind) : l.isCloser = false := by
  have hkey : l.keyword = kind.name := BlockKind.ofOpener?_eq_some_iff.1 h
  rcases Text.upper_cases l.text with ⟨b, rest, hb, htext⟩ | ⟨rest, htext, hrest⟩
  · have hne := Text.ne_of_isBlank hb
    simp [isCloser_eq_chars l htext, List.isPrefixOf, hne.1.symm, hne.2.1.symm, hne.2.2.1.symm,
      hne.2.2.2]
  · change _ = l.keyword.toList ++ rest at htext
    rw [hkey] at htext
    rw [isCloser_eq_chars l htext]
    -- Only the letter after the opening word can tell it from a closing one.
    cases rest with
    | nil => cases kind <;> decide
    | cons b rest =>
      have hne := Text.ne_of_isBlank (hrest b rfl)
      cases kind <;> simp [BlockKind.name, List.isPrefixOf, hne.2.2.2.symm]

theorem ofOpener?_of_isCloser {l : Line} (h : l.isCloser = true) :
    BlockKind.ofOpener? l = none := by
  cases hopen : BlockKind.ofOpener? l with
  | none => rfl
  | some kind => simp [isCloser_of_ofOpener? hopen] at h

theorem text_of_isIdle {l : Line} (h : l.isIdle = true) :
    l.text.toList = [] ∨ ∃ rest, l.text.toList = '#' :: rest := by
  have hcases : l.isBlank = true ∨ l.isComment = true := by simpa [isIdle] using h
  rcases hcases with hblank | hcomment
  · have hempty : l.text = "" := by simpa [isBlank] using hblank
    exact .inl (by simp [hempty])
  · obtain ⟨rest, hrest⟩ := List.isPrefixOf_iff_prefix.1 hcomment
    exact .inr ⟨rest, hrest.symm⟩

/-- The keyword of a line without effect is empty or begins like a comment. -/
theorem keyword_of_isIdle {l : Line} (h : l.isIdle = true) :
    l.keyword.toList = [] ∨ ∃ rest, l.keyword.toList = '#' :: rest := by
  rcases text_of_isIdle h with hblank | ⟨rest, hcomment⟩
  · have hempty : l.text = "" := String.toList_eq_nil_iff.1 hblank
    exact .inl (by simp [keyword, hempty, Text.words, Text.wordsFrom])
  · have hink : Text.isInk '#' = true := by decide
    have hhead : ((Text.words l.text).headD "").toList = '#' :: rest.takeWhile Text.isInk := by
      rw [Text.words_of_ink hcomment (by decide), String.toList_ofList, hcomment,
        List.takeWhile_cons_of_pos hink]
    exact .inr ⟨_, Text.upper_of_comment hhead⟩

/-- No command word is empty or begins like a comment. -/
theorem isIdle_of_ofLine? {l : Line} {c : Command} (h : Command.ofLine? l = some c) :
    l.isIdle = false := by
  have hword : Command.ofWord? l.keyword = some c := (Option.filter_eq_some_iff.1 h).1
  have hname : c.name = upper l.keyword := by simpa using List.find?_some hword
  cases hidle : l.isIdle with
  | false => rfl
  | true =>
    rcases keyword_of_isIdle hidle with hkey | ⟨rest, hkey⟩
    · have hempty : c.name.toList = [] := by simp [hname, hkey]
      cases c <;> simp [Command.name] at hempty
    · have hmark := Text.upper_of_comment hkey
      rw [← hname] at hmark
      cases c <;> simp [Command.name] at hmark

theorem ofOpener?_of_isIdle {l : Line} (h : l.isIdle = true) : BlockKind.ofOpener? l = none := by
  cases hopen : BlockKind.ofOpener? l with
  | none => rfl
  | some kind =>
    have hname : l.keyword = kind.name := BlockKind.ofOpener?_eq_some_iff.1 hopen
    rcases keyword_of_isIdle h with hkey | ⟨rest, hkey⟩ <;>
      · rw [hname] at hkey
        cases kind <;> simp [BlockKind.name] at hkey

theorem isCloser_of_isIdle {l : Line} (h : l.isIdle = true) : l.isCloser = false := by
  rcases text_of_isIdle h with hblank | ⟨rest, hcomment⟩
  · have hupper : (upper l.text).toList = [] := by simp [hblank]
    simp [isCloser_eq_chars l hupper]
  · simp [isCloser_eq_chars l (Text.upper_of_comment hcomment), List.isPrefixOf]

end Line

end ProseScript
