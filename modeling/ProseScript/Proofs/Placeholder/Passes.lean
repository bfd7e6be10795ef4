import ProseScript.Placeholder

/-!
Substitution by passes. Main statement: the passes, which replace placeholders in place and search
the changed text, make of a sentence what one scan over its pieces makes of it, and there are as
many passes as placeholders.
-/

namespace ProseScript.Placeholder

/-- Fills pieces in one scan from left to right. -/
def scan (source : List Char → Option (List String)) :
    List Piece → Chance → (List Char × List Miss) × Chance
  | [], c => (([], []), c)
  | .plain x :: rest, c =>
      let ((text, misses), c) := scan source rest c
      ((x :: text, misses), c)
  | .slot token :: rest, c =>
      let words := source token
      let (word, c) := c.choose (words.getD [])
      let ((text, misses), c) := scan source rest c
      match word with
      | some w => ((w.toList ++ text, misses), c)
      | none =>
          let miss := ⟨String.ofList ('_' :: token ++ ['_']), words.isSome⟩
          ((fallback.toList ++ text, miss :: misses), c)

theorem scan_plain (source : List Char → Option (List String)) (plain : List Char)
    (ps : List Piece) (c : Chance) :
    scan source (plain.map .plain ++ ps) c =
      ((plain ++ (scan source ps c).1.1, (scan source ps c).1.2), (scan source ps c).2) := by
  induction plain with
  | nil => rfl
  | cons x plain ih => simp [scan, ih]

theorem filter_isSlot_plain (plain : List Char) :
    (plain.map Piece.plain).filter Piece.isSlot = [] := by
  simp [Piece.isSlot]

/-- What the passes from a draft on are to give: the text that has been searched with what a scan
makes of the rest, the misses of both, and a pass for each placeholder of the rest. -/
structure Scanned (source : List Char → Option (List String)) (d : Draft) (c : Chance)
    (result : Draft × Chance) : Prop where
  text : result.1.text = d.front ++ (scan source (pieces d.rest) c).1.1
  misses : result.1.misses = d.misses ++ (scan source (pieces d.rest) c).1.2
  passes : result.1.passes = d.passes + ((pieces d.rest).filter Piece.isSlot).length
  chance : result.2 = (scan source (pieces d.rest) c).2

/-- One pass does what the scan does with the plain text up to the first placeholder and with the
placeholder. -/
theorem Scanned.of_pass {source : List Char → Option (List String)} {d : Draft} {p : Place}
    (h : d.find? = some p) {c c' : Chance} {word : Option String} {result : Draft × Chance}
    (hword : c.choose ((source p.token).getD []) = (word, c'))
    (hlater : Scanned source (d.pass p h word (source p.token).isSome) c' result) :
    Scanned source d c result := by
  obtain ⟨plain, rest, -, hpieces, hfront, hrest⟩ :=
    Draft.front_rest_pass h word (source p.token).isSome
  obtain ⟨htext, hmisses, hpasses, hchance⟩ := hlater
  rw [hrest] at htext hmisses hpasses hchance
  rw [hfront] at htext
  constructor
  · rw [htext, hpieces, scan_plain]
    cases word <;> simp [scan, hword]
  · rw [hmisses, hpieces, scan_plain]
    cases word <;> simp [scan, hword, Draft.pass, Place.placeholder]
  · rw [hpasses, hpieces, List.filter_append, filter_isSlot_plain, List.filter_cons_of_pos rfl]
    simp [Draft.pass]
    omega
  · rw [hchance, hpieces, scan_plain]
    cases word <;> simp [scan, hword]

/-- All passes do what one scan over the pieces does. -/
theorem scanned_fill (words : Catalog) (store : Store) (d : Draft) (c : Chance) :
    Scanned (wordsFor words store) d c (fill words store d c) := by
  fun_induction fill words store d c with
  | case1 d c hnone =>
    have hpieces : pieces d.rest = d.rest.map .plain := pieces_of_find?_none hnone
    have hscan : scan (wordsFor words store) (d.rest.map .plain) c = ((d.rest, []), c) := by
      simpa [scan] using scan_plain (wordsFor words store) d.rest [] c
    constructor
    · rw [hpieces, hscan, Draft.front_append_rest]
    · rw [hpieces, hscan, List.append_nil]
    · rw [hpieces, filter_isSlot_plain]
      rfl
    · rw [hpieces, hscan]
  | case2 d c p h source word c' hword ih =>
    exact .of_pass h hword ih

/-- A sentence is filled as by one scan over its pieces, in as many passes as it has
placeholders. -/
theorem substitute_eq_scan (sentence : String) (words : Catalog) (store : Store) (c : Chance) :
    substitute sentence words store c =
      (⟨String.ofList (scan (wordsFor words store) (pieces sentence.toList) c).1.1,
        (scan (wordsFor words store) (pieces sentence.toList) c).1.2, count sentence⟩,
        (scan (wordsFor words store) (pieces sentence.toList) c).2) := by
  have hscanned := scanned_fill words store (.start sentence.toList) c
  have hslots := hscanned.passes
  rw [Draft.passes_start, Draft.rest_start, Nat.zero_add] at hslots
  simp [substitute, hscanned.text, hscanned.misses, hscanned.chance, hslots, count]

end ProseScript.Placeholder
