import Mathlib.Data.List.Forall2
import ProseScript.Proofs.Placeholder.Division
import ProseScript.Proofs.Placeholder.Passes

/-!
Filled sentences. Main statement: substitution keeps the plain text between the placeholders of the
sentence as it divides it, and puts a listed word, or the fallback with a miss, in the place of each
placeholder.
-/

namespace ProseScript.Placeholder

/-- The list of words under a token: a field of an active member for a token with a period, an entry
of the word catalog for any other. -/
inductive Listed (words : Catalog) (store : Store) (token : List Char) : List String → Prop
  | field {ws : List String} (hdot : '.' ∈ token)
      (h : store.lookup (Text.lower (String.ofList token)) .group = some (.list ws)) :
      Listed words store token ws
  | entry {ws : List String} (hdot : '.' ∉ token)
      (h : words.get? (Text.lower (String.ofList token)) = some ws) : Listed words store token ws

/-- What a placeholder is filled with, and the miss that is noted for it. -/
inductive Filling (words : Catalog) (store : Store) (token : List Char) :
    String → Option Miss → Prop
  | word {ws : List String} {w : String} (hws : Listed words store token ws) (hw : w ∈ ws) :
      Filling words store token w none
  | empty (hws : Listed words store token []) :
      Filling words store token "SOMETHING" (some ⟨String.ofList (marked token), true⟩)
  | missing (hnone : ∀ ws, ¬ Listed words store token ws) :
      Filling words store token "SOMETHING" (some ⟨String.ofList (marked token), false⟩)

/-- The plain texts of a division with words in the place of its placeholders. -/
def weave : List (List Char × List Char) → List String → List Char → List Char
  | (plain, _) :: parts, w :: ws, last => plain ++ (w.toList ++ weave parts ws last)
  | _, _, last => last

section Scan

variable {words : Catalog} {store : Store}

theorem wordsFor_eq_some_iff {token : List Char} {ws : List String} :
    wordsFor words store token = some ws ↔ Listed words store token ws := by
  unfold wordsFor
  by_cases hdot : '.' ∈ token
  · simp only [hdot, if_true]
    constructor
    · intro h
      obtain ⟨view, hview, hlist⟩ := Option.bind_eq_some_iff.1 h
      cases view with
      | list items =>
        obtain rfl := Option.some.inj hlist
        exact .field hdot hview
      | _ => simp [View.list?] at hlist
    · intro h
      cases h with
      | field _ hview => simp [hview, View.list?]
      | entry hplain _ => exact absurd hdot hplain
  · simp only [hdot, if_false]
    constructor
    · exact .entry hdot
    · intro h
      cases h with
      | field hdotted _ => exact absurd hdotted hdot
      | entry _ hentry => exact hentry

theorem filling_of_some {token : List Char} {w : String} {c c' : Chance}
    (h : c.choose ((wordsFor words store token).getD []) = (some w, c')) :
    Filling words store token w none := by
  have hw := Chance.mem_of_choose h
  cases hwords : wordsFor words store token with
  | none => simp [hwords] at hw
  | some ws => exact .word (wordsFor_eq_some_iff.1 hwords) (by simpa [hwords] using hw)

/-- Nothing can be chosen for a token whose list is empty or missing, and for no other. -/
theorem filling_of_none {token : List Char} {c c' : Chance}
    (h : c.choose ((wordsFor words store token).getD []) = (none, c')) :
    Filling words store token fallback
      (some ⟨String.ofList (marked token), (wordsFor words store token).isSome⟩) := by
  have hnothing := (Chance.choose_eq_none_iff _ c).1 (congrArg Prod.fst h)
  cases hwords : wordsFor words store token with
  | none =>
    refine .missing ?_
    intro ws hws
    simp [wordsFor_eq_some_iff.2 hws] at hwords
  | some ws =>
    obtain rfl : ws = [] := by simpa [hwords] using hnothing
    exact .empty (wordsFor_eq_some_iff.1 hwords)

theorem exists_fills (words : Catalog) (store : Store) (parts : List (List Char × List Char))
    (last : List Char) (c : Chance) :
    ∃ fills c', List.Forall₂ (fun part f => Filling words store part.2 f.1 f.2) parts fills ∧
      scan (wordsFor words store) (piecesOf parts last) c =
        ((weave parts (fills.map Prod.fst) last, fills.filterMap Prod.snd), c') := by
  induction parts generalizing c with
  | nil =>
    have hlast := scan_plain (wordsFor words store) last [] c
    exact ⟨[], c, .nil, by simpa [piecesOf, weave, scan] using hlast⟩
  | cons part parts ih =>
    obtain ⟨plain, token⟩ := part
    rw [piecesOf_cons, scan_plain]
    rcases hchoice : c.choose ((wordsFor words store token).getD []) with ⟨word, c₁⟩
    obtain ⟨fills, c₂, hfills, hrest⟩ := ih c₁
    cases word with
    | some w =>
      refine ⟨(w, none) :: fills, c₂, .cons (filling_of_some hchoice) hfills, ?_⟩
      simp [scan, hchoice, hrest, weave]
    | none =>
      refine ⟨(fallback, some _) :: fills, c₂, .cons (filling_of_none hchoice) hfills, ?_⟩
      simp [scan, hchoice, hrest, weave, marked]

end Scan

/-- The whole result of a substitution, told by any division of the sentence. -/
theorem substitute_of_divides {sentence : String} {parts : List (List Char × List Char)}
    {last : List Char} (h : Divides sentence.toList parts last) (words : Catalog) (store : Store)
    (c : Chance) :
    ∃ fills, List.Forall₂ (fun part f => Filling words store part.2 f.1 f.2) parts fills ∧
      (substitute sentence words store c).1 =
        ⟨String.ofList (weave parts (fills.map Prod.fst) last), fills.filterMap Prod.snd,
          parts.length⟩ := by
  obtain ⟨fills, c', hfills, hscan⟩ := exists_fills words store parts last c
  refine ⟨fills, hfills, ?_⟩
  rw [substitute_eq_scan, h.pieces_eq, hscan, h.count_eq]

/-- A sentence is filled as its leftmost placeholders divide it. There is such a division, and by
any of them there is one pass for each placeholder, and the text is that of the sentence with each
placeholder replaced: by a word of its list if the list is there and has words, else by the
fallback, with a miss that tells whether the list is there. What is put in place is not read
again. -/
theorem substitution_follows_division (sentence : String) (words : Catalog) (store : Store)
    (c : Chance) :
    (∃ parts last, Divides sentence.toList parts last) ∧
    ∀ parts last, Divides sentence.toList parts last →
      count sentence = parts.length ∧
      ∃ fills, List.Forall₂ (fun part f => Filling words store part.2 f.1 f.2) parts fills ∧
        (substitute sentence words store c).1.text =
          String.ofList (weave parts (fills.map Prod.fst) last) ∧
        (substitute sentence words store c).1.misses = fills.filterMap Prod.snd ∧
        (substitute sentence words store c).1.passes = parts.length := by
  refine ⟨exists_divides sentence.toList, ?_⟩
  intro parts last hdivides
  obtain ⟨fills, hfills, hresult⟩ := substitute_of_divides hdivides words store c
  refine ⟨hdivides.count_eq, fills, hfills, ?_⟩
  simp [hresult]

/-- A word that reads as a placeholder, before text that ends another one. -/
theorem substitution_follows_division_noun :
    let sentence := "_noun_verb_ _ghost_"
    let words : Catalog := .ofEntries [("noun", ["_verb_"])]
    let store : Store := .ofFolders .empty .empty
    let parts := [([], "noun".toList), ("verb_ ".toList, "ghost".toList)]
    Divides sentence.toList parts [] ∧ count sentence = 2 ∧
    (substitute sentence words store ⟨fun _ => 0, 0⟩).1 =
      ⟨"_verb_verb_ SOMETHING", [⟨"_ghost_", false⟩], 2⟩ ∧
    ∃ fills, List.Forall₂ (fun part f => Filling words store part.2 f.1 f.2) parts fills ∧
      String.ofList (weave parts (fills.map Prod.fst) []) = "_verb_verb_ SOMETHING" ∧
      fills.filterMap Prod.snd = [⟨"_ghost_", false⟩] := by
  intro sentence words store parts
  have hnoun : IsToken "noun".toList := .of_alphanum (by decide) (List.all_eq_true.1 (by decide))
  have hghost : IsToken "ghost".toList := .of_alphanum (by decide) (List.all_eq_true.1 (by decide))
  have hsentence : sentence.toList =
      [] ++ (marked "noun".toList ++ ("verb_ ".toList ++ (marked "ghost".toList ++ []))) := by
    decide
  have hdivides : Divides sentence.toList parts [] := by
    rw [hsentence]
    exact .next hnoun (by simp) (.next hghost (by decide) (.last (by simp [not_begins_nil])))
  have hresult : (substitute sentence words store ⟨fun _ => 0, 0⟩).1 =
      ⟨"_verb_verb_ SOMETHING", [⟨"_ghost_", false⟩], 2⟩ := by
    decide +kernel
  obtain ⟨-, hfollows⟩ := substitution_follows_division sentence words store ⟨fun _ => 0, 0⟩
  obtain ⟨hcount, fills, hfills, htext, hmisses, -⟩ := hfollows parts [] hdivides
  rw [hresult] at htext hmisses
  exact ⟨hdivides, hcount, hresult, fills, hfills, htext.symm, hmisses.symm⟩

end ProseScript.Placeholder
