import Mathlib.Data.List.TakeWhile
import ProseScript.Placeholder

/-!
Texts divided by their placeholders. Main statement: the pieces of a text are those of its division
by the leftmost placeholders that do not overlap, and every text has such a division.
-/

namespace ProseScript.Placeholder

/-- One or more letters or digits, an optional period, and any number of letters or digits. -/
def IsToken (token : List Char) : Prop :=
  ∃ front dot back : List Char, front ≠ [] ∧ (dot = [] ∨ dot = ['.']) ∧
    (∀ c ∈ front, c.isAlphanum = true) ∧ (∀ c ∈ back, c.isAlphanum = true) ∧
    token = front ++ dot ++ back

/-- A placeholder is a token between underscores. -/
def marked (token : List Char) : List Char := '_' :: (token ++ ['_'])

/-- A text that begins with a placeholder. -/
def Begins (cs : List Char) : Prop := ∃ token rest, IsToken token ∧ cs = marked token ++ rest

/-- The division of a text by its leftmost placeholders that do not overlap: each token with the
plain text before it, and the text after the last placeholder. -/
inductive Divides : List Char → List (List Char × List Char) → List Char → Prop
  | last {cs : List Char} (hnone : ∀ k, ¬ Begins (cs.drop k)) : Divides cs [] cs
  | next {plain token rest last : List Char} {parts : List (List Char × List Char)}
      (htoken : IsToken token)
      (hfirst : ∀ k < plain.length, ¬ Begins ((plain ++ (marked token ++ rest)).drop k))
      (hrest : Divides rest parts last) :
      Divides (plain ++ (marked token ++ rest)) ((plain, token) :: parts) last

/-- The pieces of a division. -/
def piecesOf (parts : List (List Char × List Char)) (last : List Char) : List Piece :=
  parts.flatMap (fun part => part.1.map .plain ++ [.slot part.2]) ++ last.map .plain

theorem piecesOf_cons (plain token last : List Char) (parts : List (List Char × List Char)) :
    piecesOf ((plain, token) :: parts) last =
      plain.map .plain ++ .slot token :: piecesOf parts last := by
  simp [piecesOf]

/-- A division has as many placeholders as parts. -/
theorem length_filter_piecesOf (parts : List (List Char × List Char)) (last : List Char) :
    ((piecesOf parts last).filter Piece.isSlot).length = parts.length := by
  have hplain (cs : List Char) : (cs.map Piece.plain).filter Piece.isSlot = [] := by
    simp [Piece.isSlot]
  induction parts with
  | nil => simp [piecesOf, hplain]
  | cons part parts ih =>
    obtain ⟨plain, token⟩ := part
    rw [piecesOf_cons, List.filter_append, hplain, List.filter_cons_of_pos rfl]
    simp [ih]

namespace IsToken

variable {token : List Char}

theorem of_alphanum (hne : token ≠ []) (h : ∀ c ∈ token, c.isAlphanum = true) : IsToken token :=
  ⟨token, [], [], hne, .inl rfl, h, by simp, by simp⟩

/-- What a token begins with is a token. -/
theorem of_append {front back : List Char} (h : IsToken (front ++ back)) (hne : front ≠ []) :
    IsToken front := by
  obtain ⟨first, dot, second, hfirst, hdot, hfirsts, hseconds, htoken⟩ := h
  rcases List.append_eq_append_iff.1 htoken with ⟨as, hinside, -⟩ | ⟨bs, rfl, hsecond⟩
  · rcases List.append_eq_append_iff.1 hinside with ⟨bs, rfl, hperiod⟩ | ⟨bs, rfl, -⟩
    · have hshort : bs = [] ∨ bs = ['.'] := by
        rcases hdot with rfl | rfl
        · exact .inl (List.append_eq_nil_iff.1 hperiod.symm).1
        · exact (List.append_eq_singleton_iff.1 hperiod.symm).imp And.left And.left
      exact ⟨first, bs, [], hfirst, hshort, hfirsts, by simp, by simp⟩
    · apply of_alphanum hne
      intro c hc
      exact hfirsts c (List.mem_append_left _ hc)
  · refine ⟨first, dot, bs, hfirst, hdot, hfirsts, ?_, rfl⟩
    intro c hc
    exact hseconds c (hsecond ▸ List.mem_append_left _ hc)

end IsToken

/-- The token that is read at the front of a text is what stands there before an underscore. -/
theorem token?_eq_some_iff {cs token : List Char} :
    token? cs = some token ↔ IsToken token ∧ ∃ rest, cs = token ++ '_' :: rest := by
  constructor
  · intro h
    refine ⟨?_, eq_append_of_token? h⟩
    have hfronts : ∀ c ∈ cs.takeWhile Char.isAlphanum, c.isAlphanum = true :=
      fun c hc => List.mem_takeWhile_imp hc
    simp only [token?] at h
    split at h
    · simp at h
    next hfront =>
    have hne : cs.takeWhile Char.isAlphanum ≠ [] := by simpa using hfront
    split at h
    · obtain rfl := Option.some.inj h
      exact .of_alphanum hne hfronts
    · next rest _ =>
      split at h
      · obtain rfl := Option.some.inj h
        have hbacks : ∀ c ∈ rest.takeWhile Char.isAlphanum, c.isAlphanum = true :=
          fun c hc => List.mem_takeWhile_imp hc
        exact ⟨_, ['.'], _, hne, .inr rfl, hfronts, hbacks, by simp⟩
      · simp at h
    · simp at h
  · rintro ⟨hvalid, rest, rfl⟩
    obtain ⟨front, dot, back, hne, hdot, hfronts, hbacks, rfl⟩ := hvalid
    have hmark : '_'.isAlphanum = false := by decide
    have hperiod : '.'.isAlphanum = false := by decide
    rcases hdot with rfl | rfl
    · have hall : ∀ c ∈ front ++ back, c.isAlphanum = true := by
        intro c hc
        exact (List.mem_append.1 hc).elim (hfronts c) (hbacks c)
      simp only [List.append_nil, token?]
      rw [List.takeWhile_append_of_pos hall, List.dropWhile_append_of_pos hall]
      simp [hmark, hne]
    · simp only [List.append_assoc, List.cons_append, token?]
      rw [List.takeWhile_append_of_pos hfronts, List.dropWhile_append_of_pos hfronts]
      simp [hperiod, hne, List.takeWhile_append_of_pos hbacks, List.dropWhile_append_of_pos hbacks,
        hmark]

theorem begins_iff {c : Char} {cs : List Char} :
    Begins (c :: cs) ↔ c = '_' ∧ ∃ token, token? cs = some token := by
  constructor
  · intro ⟨token, rest, htoken, hcs⟩
    obtain ⟨rfl, rfl⟩ := List.cons.inj hcs
    exact ⟨rfl, token, token?_eq_some_iff.2 ⟨htoken, rest, by simp⟩⟩
  · intro ⟨hmark, token, htoken⟩
    subst hmark
    obtain ⟨hvalid, rest, rfl⟩ := token?_eq_some_iff.1 htoken
    exact ⟨token, rest, hvalid, by simp [marked]⟩

theorem not_begins_nil : ¬ Begins [] := by
  intro ⟨token, rest, _, h⟩
  simp [marked] at h

instance decidableBegins : (cs : List Char) → Decidable (Begins cs)
  | [] => isFalse not_begins_nil
  | c :: cs =>
    decidable_of_iff (c = '_' ∧ (token? cs).isSome = true) (by
      rw [begins_iff, Option.isSome_iff_exists])

theorem pieces_marked {token : List Char} (htoken : IsToken token) (rest : List Char) :
    pieces (marked token ++ rest) = .slot token :: pieces rest := by
  have hfound : token? (token ++ '_' :: rest) = some token :=
    token?_eq_some_iff.2 ⟨htoken, rest, rfl⟩
  have hrest : piecesFrom (token.length + 1) (token ++ '_' :: rest) = pieces rest := by
    rw [piecesFrom_eq_drop]
    simp
  simp only [marked, List.cons_append, List.append_assoc, List.nil_append, pieces, piecesFrom,
    if_true, hfound, hrest]

theorem pieces_cons {c : Char} {cs : List Char} (h : ¬ Begins (c :: cs)) :
    pieces (c :: cs) = .plain c :: pieces cs := by
  rw [begins_iff] at h
  simp only [pieces, piecesFrom]
  split
  · next hmark =>
    split
    · next token htoken => exact absurd ⟨hmark, token, htoken⟩ h
    · rfl
  · rfl

/-- Text in which no placeholder begins is plain. -/
theorem pieces_append {plain rest : List Char}
    (h : ∀ k < plain.length, ¬ Begins ((plain ++ rest).drop k)) :
    pieces (plain ++ rest) = plain.map .plain ++ pieces rest := by
  induction plain with
  | nil => rfl
  | cons c plain ih =>
    have hrest : ∀ k < plain.length, ¬ Begins ((plain ++ rest).drop k) := by
      intro k hk
      exact h (k + 1) (by simpa using hk)
    have hc : ¬ Begins (c :: (plain ++ rest)) := h 0 (by simp)
    simp [pieces_cons hc, ih hrest]

namespace Divides

variable {cs last : List Char} {parts : List (List Char × List Char)}

theorem pieces_eq (h : Divides cs parts last) : pieces cs = piecesOf parts last := by
  induction h with
  | @last cs hnone =>
    have hplain : pieces (cs ++ []) = cs.map .plain ++ pieces [] :=
      pieces_append (by simpa using fun k _ => hnone k)
    simpa [piecesOf, pieces, piecesFrom] using hplain
  | next htoken hfirst _ ih =>
    rw [pieces_append hfirst, pieces_marked htoken, ih, piecesOf_cons]

theorem count_eq {s : String} (h : Divides s.toList parts last) : count s = parts.length := by
  rw [count, h.pieces_eq, length_filter_piecesOf]

/-- A character that begins no placeholder goes to the front of the first plain text. -/
theorem cons (h : Divides cs parts last) {c : Char} (hc : ¬ Begins (c :: cs)) :
    ∃ parts last, Divides (c :: cs) parts last := by
  cases h with
  | last hnone =>
    refine ⟨[], c :: cs, .last ?_⟩
    intro k
    cases k with
    | zero => exact hc
    | succ k => exact hnone k
  | @next plain token rest _ parts htoken hfirst hrest =>
    have hearlier : ∀ k < (c :: plain).length,
        ¬ Begins ((c :: plain ++ (marked token ++ rest)).drop k) := by
      intro k hk
      cases k with
      | zero => exact hc
      | succ k => exact hfirst k (by simpa using hk)
    exact ⟨(c :: plain, token) :: parts, last, .next htoken hearlier hrest⟩

end Divides

/-- Every text can be divided by its placeholders. -/
theorem exists_divides (cs : List Char) : ∃ parts last, Divides cs parts last := by
  induction hn : cs.length using Nat.strong_induction_on generalizing cs with
  | _ n ih =>
    subst hn
    by_cases hbegins : Begins cs
    · obtain ⟨token, rest, htoken, rfl⟩ := hbegins
      obtain ⟨parts, last, hrest⟩ := ih rest.length (by simp [marked]; omega) rest rfl
      have hfront : Divides ([] ++ (marked token ++ rest)) (([], token) :: parts) last :=
        .next htoken (by simp) hrest
      exact ⟨([], token) :: parts, last, hfront⟩
    · cases cs with
      | nil => exact ⟨[], [], .last (by simpa using hbegins)⟩
      | cons c cs =>
        obtain ⟨parts, last, hrest⟩ := ih cs.length (by simp) cs rfl
        exact hrest.cons hbegins

/-- A text has no placeholders exactly when none begins anywhere in it. -/
theorem count_eq_zero_iff {s : String} : count s = 0 ↔ ∀ k, ¬ Begins (s.toList.drop k) := by
  constructor
  · intro h
    obtain ⟨parts, last, hdivides⟩ := exists_divides s.toList
    have hcount := hdivides.count_eq
    generalize s.toList = cs at hdivides ⊢
    cases hdivides with
    | last hnone => exact hnone
    | next => simp [h] at hcount
  · intro h
    exact (Divides.last h).count_eq

end ProseScript.Placeholder
