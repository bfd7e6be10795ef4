import Mathlib.Data.List.Basic
import ProseScript.Format.Code

/-!
Articles before vowels. Main statement: the article code only adds endings to articles that stand alone
before a vowel, and after two rounds none of these is left. A run of articles takes the second round:
each that is joined uses up the next one as its vowel.
-/

namespace ProseScript.FormatCode

/-- A word may begin after a space and after a line feed. -/
def opens (c : Char) : Bool := c == ' ' || c == '\n'

/-- The letters of one kind of article: the article, the ending it may take and the vowels that it
takes it before. -/
structure Letters where
  article : Char
  ending : Char
  vowels : List Char
  opens_article : opens article = false
  opens_ending : opens ending = false
  opens_vowels : ∀ v ∈ vowels, opens v = false

namespace Letters

def small : Letters := ⟨'a', 'n', "aeiou".toList, by decide, by decide, by simp [opens]⟩

def capital : Letters := ⟨'A', 'N', "AEIOU".toList, by decide, by decide, by simp [opens]⟩

/-- At this place of a text an article stands alone before a vowel: at the start of a line or after a
space, with a space and a vowel after it. -/
structure StandsAt (L : Letters) (cs : List Char) (i : Nat) : Prop where
  front : i = 0 ∨ cs[i - 1]? = some ' ' ∨ cs[i - 1]? = some '\n'
  article : cs[i]? = some L.article
  space : cs[i + 1]? = some ' '
  vowel : ∃ v ∈ L.vowels, cs[i + 2]? = some v

/-- One pass over a text for one kind of article. -/
def join (L : Letters) (ready : Bool) (cs : List Char) : List Char :=
  joinArticles L.article L.ending L.vowels.contains ready cs

/-- An article, a space and a vowel come first. -/
def begins (L : Letters) : List Char → Bool
  | c :: ' ' :: v :: _ => c == L.article && L.vowels.contains v
  | _ => false

variable (L : Letters) {c : Char} {cs : List Char}

theorem begins_iff {L : Letters} : L.begins cs = true ↔
    ∃ v ∈ L.vowels, ∃ rest, cs = L.article :: ' ' :: v :: rest := by
  constructor
  · intro h
    unfold begins at h
    split at h
    · next c v rest =>
      simp only [Bool.and_eq_true, beq_iff_eq, List.contains_iff_mem] at h
      obtain ⟨rfl, hv⟩ := h
      exact ⟨v, hv, rest, rfl⟩
    · simp at h
  · intro ⟨v, hv, rest, hcs⟩
    simp [hcs, begins, hv]

theorem begins_cons_of_ne {d : Char} (hd : d ≠ ' ') : L.begins (c :: d :: cs) = false := by
  rw [Bool.eq_false_iff]
  intro h
  obtain ⟨v, -, rest, hcs⟩ := begins_iff.1 h
  simp [hd] at hcs

theorem begins_ending (M : Letters) : L.begins (c :: M.ending :: cs) = false := by
  apply begins_cons_of_ne
  intro h
  have hclosed := M.opens_ending
  simp [h, opens] at hclosed

theorem begins_space : L.begins (' ' :: cs) = false := by
  rw [Bool.eq_false_iff]
  intro h
  obtain ⟨v, -, rest, hcs⟩ := begins_iff.1 h
  have hclosed := L.opens_article
  simp [← (List.cons.inj hcs).1, opens] at hclosed

theorem opens_of_begins {L : Letters} (h : L.begins (c :: cs) = true) : opens c = false := by
  obtain ⟨v, -, rest, hcs⟩ := begins_iff.1 h
  rw [(List.cons.inj hcs).1]
  exact L.opens_article

end Letters

open Letters

variable {L M : Letters} {Ls : List Letters} {ready : Bool} {c : Char} {cs ds : List Char}

/-- A text with endings added to some of the articles that stand alone before vowels. `ready` tells
whether a word may begin where the text does. -/
inductive Extends (Ls : List Letters) : Bool → List Char → List Char → Prop
  | nil {ready : Bool} : Extends Ls ready [] []
  | keep {ready : Bool} {c : Char} {cs ds : List Char} (h : Extends Ls (opens c) cs ds) :
      Extends Ls ready (c :: cs) (c :: ds)
  | add {L : Letters} {c : Char} {cs ds : List Char} (hL : L ∈ Ls)
      (hbegins : L.begins (c :: cs) = true) (h : Extends Ls (opens c) cs ds) :
      Extends Ls true (c :: cs) (c :: L.ending :: ds)

/-- One pass for one kind of article. An article that begins where a word may takes its ending, and
the vowel after it is passed over, so that it takes none itself. -/
inductive Pass (L : Letters) : Bool → List Char → List Char → Prop
  | nil {ready : Bool} : Pass L ready [] []
  | keep {ready : Bool} {c : Char} {cs ds : List Char}
      (hstays : ¬ (ready = true ∧ L.begins (c :: cs) = true)) (h : Pass L (opens c) cs ds) :
      Pass L ready (c :: cs) (c :: ds)
  | add {v : Char} {cs ds : List Char} (hv : v ∈ L.vowels) (h : Pass L false cs ds) :
      Pass L true (L.article :: ' ' :: v :: cs) (L.article :: L.ending :: ' ' :: v :: ds)

theorem pass_join (L : Letters) (ready : Bool) (cs : List Char) :
    Pass L ready cs (L.join ready cs) := by
  unfold join
  induction ready, cs using joinArticles.induct L.article L.vowels.contains with
  | case1 => exact .nil
  | case2 ready c v rest hmatch ih =>
    rw [joinArticles, if_pos hmatch]
    simp only [Bool.and_eq_true, beq_iff_eq, List.contains_iff_mem] at hmatch
    obtain ⟨⟨rfl, rfl⟩, hv⟩ := hmatch
    exact .add hv ih
  | case3 ready c v rest hmatch ih =>
    rw [joinArticles, if_neg hmatch]
    refine .keep ?_ ih
    simpa [begins, and_assoc] using hmatch
  | case4 ready c rest hother ih =>
    rw [joinArticles]
    · refine .keep ?_ ih
      intro ⟨_, hbegins⟩
      obtain ⟨v, -, back, hcs⟩ := begins_iff.1 hbegins
      exact hother v back (List.cons.inj hcs).2
    · exact hother

theorem Pass.extends (h : Pass L ready cs ds) : Extends [L] ready cs ds := by
  induction h with
  | nil => exact .nil
  | keep _ _ ih => exact .keep ih
  | @add v cs ds hv _ ih =>
    refine .add (List.mem_singleton_self L) (begins_iff.2 ⟨v, hv, cs, rfl⟩) (.keep (.keep ?_))
    rwa [L.opens_vowels v hv]

namespace Extends

/-- Nothing is added to a space. -/
theorem of_space (h : Extends Ls ready (' ' :: cs) ds) :
    ∃ rest, ds = ' ' :: rest ∧ Extends Ls true cs rest := by
  cases h with
  | keep h => exact ⟨_, rfl, h⟩
  | add _ hbegins h =>
    rw [begins_space] at hbegins
    cases hbegins

theorem of_cons (h : Extends Ls ready (c :: cs) ds) : ∃ rest, ds = c :: rest := by
  cases h with
  | keep h => exact ⟨_, rfl⟩
  | add _ _ h => exact ⟨_, rfl⟩

/-- Whether an article begins at a character depends on nothing that is added further on. -/
theorem begins_cons (h : Extends Ls ready cs ds) (L : Letters) (c : Char) :
    L.begins (c :: ds) = L.begins (c :: cs) := by
  cases cs with
  | nil =>
    cases h
    rfl
  | cons d cs =>
    by_cases hd : d = ' '
    · subst hd
      obtain ⟨rest, rfl, hrest⟩ := h.of_space
      cases cs with
      | nil =>
        cases hrest
        rfl
      | cons v cs =>
        obtain ⟨back, rfl⟩ := hrest.of_cons
        rfl
    · obtain ⟨rest, rfl⟩ := h.of_cons
      rw [begins_cons_of_ne _ hd, begins_cons_of_ne _ hd]

theorem begins_of_begins (h : Extends Ls ready cs ds) (hds : L.begins ds = true) :
    L.begins cs = true := by
  cases h with
  | nil => exact hds
  | keep h => rwa [h.begins_cons] at hds
  | add _ _ h =>
    rw [begins_ending] at hds
    cases hds

/-- Endings of one kind and then of another, both added to articles of the text as it was. -/
theorem trans {es : List Char} (h : Extends [L] ready cs ds) (h' : Extends [M] ready ds es) :
    Extends [L, M] ready cs es := by
  induction h generalizing es with
  | nil =>
    cases h'
    exact .nil
  | keep h ih =>
    cases h' with
    | keep h' => exact .keep (ih h')
    | @add N _ _ _ hN hbegins h' =>
      rw [h.begins_cons] at hbegins
      exact .add (List.mem_cons_of_mem L hN) hbegins (ih h')
  | @add N c cs ds hN hbegins h ih =>
    have hclosed := opens_of_begins hbegins
    have hending := N.opens_ending
    cases h' with
    | add _ hagain _ =>
      rw [begins_ending] at hagain
      cases hagain
    | keep h' =>
      -- Nothing is added to an ending, as no word begins there.
      rw [hclosed] at h' ih
      cases h' with
      | keep h' =>
        rw [hending] at h'
        refine .add (List.mem_cons.2 (.inl (List.mem_singleton.1 hN))) hbegins ?_
        rw [hclosed]
        exact ih h'

end Extends

section Rounds

/-- No article stands alone before a vowel. -/
def Clear (L : Letters) : Bool → List Char → Prop
  | _, [] => True
  | ready, c :: cs => ¬ (ready = true ∧ L.begins (c :: cs) = true) ∧ Clear L (opens c) cs

/-- No article that stands alone before a vowel has another one for this vowel. -/
def Apart (L : Letters) : Bool → List Char → Prop
  | _, [] => True
  | ready, c :: cs =>
      (ready = true → L.begins (c :: cs) = true → L.begins (cs.drop 1) = false) ∧
        Apart L (opens c) cs

/-- Endings that are added, of whatever kind, make no article stand alone that did not before. -/
theorem Clear.extends (hclear : Clear L ready cs) (h : Extends Ls ready cs ds) :
    Clear L ready ds := by
  induction h with
  | nil => trivial
  | keep h ih =>
    refine ⟨?_, ih hclear.2⟩
    rw [h.begins_cons]
    exact hclear.1
  | @add M c cs ds _ hbegins h ih =>
    have hclosed := opens_of_begins hbegins
    refine ⟨by simp [begins_ending], by simp [hclosed], ?_⟩
    rw [M.opens_ending, ← hclosed]
    exact ih hclear.2

theorem Apart.extends (hapart : Apart L ready cs) (h : Extends Ls ready cs ds) :
    Apart L ready ds := by
  induction h with
  | nil => trivial
  | @keep ready c cs ds h ih =>
    refine ⟨?_, ih hapart.2⟩
    intro hready hbegins
    rw [h.begins_cons] at hbegins
    have hnext := hapart.1 hready hbegins
    obtain ⟨v, -, rest, hcs⟩ := begins_iff.1 hbegins
    obtain ⟨-, rfl⟩ := List.cons.inj hcs
    obtain ⟨back, rfl, hback⟩ := h.of_space
    rw [Bool.eq_false_iff] at hnext ⊢
    intro hagain
    exact hnext (hback.begins_of_begins hagain)
  | @add M c cs ds _ hbegins h ih =>
    have hclosed := opens_of_begins hbegins
    refine ⟨by simp [begins_ending], by simp [hclosed], ?_⟩
    rw [M.opens_ending, ← hclosed]
    exact ih hapart.2

theorem Pass.begins_eq_false (h : Pass L true cs ds) : L.begins ds = false := by
  cases h with
  | nil => rfl
  | keep hstays h =>
    rw [h.extends.begins_cons]
    simpa using hstays
  | add _ _ => exact begins_ending L L

/-- After one pass no two articles in a row are left. -/
theorem Pass.apart (h : Pass L ready cs ds) : Apart L ready ds := by
  induction h with
  | nil => trivial
  | keep hstays h ih =>
    refine ⟨?_, ih⟩
    intro hready hbegins
    rw [h.extends.begins_cons] at hbegins
    exact absurd ⟨hready, hbegins⟩ hstays
  | @add v cs ds hv h ih =>
    refine ⟨by simp [begins_ending], by simp [L.opens_article], by simp [L.opens_ending], ?_, ?_⟩
    · -- After the vowel that was passed over the pass goes on at the next word.
      intro _ hbegins
      obtain ⟨w, -, rest, hds⟩ := begins_iff.1 hbegins
      obtain ⟨-, rfl⟩ := List.cons.inj hds
      cases h with
      | keep _ h => exact h.begins_eq_false
    · rwa [L.opens_vowels v hv]

/-- A pass over articles of which no two stand in a row leaves none. -/
theorem Pass.clear (h : Pass L ready cs ds) (hapart : Apart L ready cs) : Clear L ready ds := by
  induction h with
  | nil => trivial
  | keep hstays h ih =>
    refine ⟨?_, ih hapart.2⟩
    rwa [h.extends.begins_cons]
  | @add v cs ds hv h ih =>
    obtain ⟨hnext, -, -, hrest⟩ := hapart
    have hvowel : L.begins (v :: cs) = false := hnext rfl (begins_iff.2 ⟨v, hv, cs, rfl⟩)
    rw [L.opens_vowels v hv] at hrest
    refine ⟨by simp [begins_ending], by simp [L.opens_article], by simp [L.opens_ending], ?_, ?_⟩
    · rw [h.extends.begins_cons, hvowel]
      simp
    · rw [L.opens_vowels v hv]
      exact ih hrest

theorem Pass.eq_self (h : Pass L ready cs ds) (hclear : Clear L ready cs) : ds = cs := by
  induction h with
  | nil => rfl
  | keep _ _ ih => rw [ih hclear.2]
  | @add v cs ds hv _ _ => exact absurd ⟨rfl, begins_iff.2 ⟨v, hv, cs, rfl⟩⟩ hclear.1

end Rounds

section Places

theorem standsAt_succ {d : Char} {i : Nat} :
    L.StandsAt (d :: cs) (i + 2) ↔ L.StandsAt cs (i + 1) := by
  constructor
  · intro h
    exact ⟨by simpa using h.front, by simpa using h.article, by simpa using h.space,
      by simpa using h.vowel⟩
  · intro h
    exact ⟨by simpa using h.front, by simpa using h.article, by simpa using h.space,
      by simpa using h.vowel⟩

theorem standsAt_one_iff {d : Char} :
    L.StandsAt (d :: cs) 1 ↔ opens d = true ∧ L.begins cs = true := by
  constructor
  · intro h
    refine ⟨by simpa [opens] using h.front, begins_iff.2 ?_⟩
    obtain ⟨v, hv, hthird⟩ := h.vowel
    have hfirst := h.article
    have hsecond := h.space
    rcases cs with _ | ⟨a, _ | ⟨b, _ | ⟨w, rest⟩⟩⟩
    · simp at hfirst
    · simp at hsecond
    · simp at hthird
    · obtain rfl : a = L.article := by simpa using hfirst
      obtain rfl : b = ' ' := by simpa using hsecond
      obtain rfl : w = v := by simpa using hthird
      exact ⟨w, hv, rest, rfl⟩
  · intro ⟨hopens, hbegins⟩
    obtain ⟨v, hv, rest, rfl⟩ := begins_iff.1 hbegins
    exact ⟨by simpa [opens] using hopens, rfl, rfl, v, hv, rfl⟩

/-- At the start of a text a word may begin as after a line feed. -/
theorem standsAt_iff {i : Nat} : L.StandsAt cs i ↔ L.StandsAt ('\n' :: cs) (i + 1) := by
  constructor
  · intro h
    refine ⟨?_, h.article, h.space, h.vowel⟩
    cases i with
    | zero => simp
    | succ i => simpa using h.front
  · intro h
    refine ⟨?_, by simpa using h.article, by simpa using h.space, by simpa using h.vowel⟩
    cases i with
    | zero => simp
    | succ i => simpa using h.front

theorem clear_iff {d : Char} :
    Clear L (opens d) cs ↔ ∀ i, ¬ L.StandsAt (d :: cs) (i + 1) := by
  induction cs generalizing d with
  | nil =>
    refine ⟨fun _ i h => ?_, fun _ => trivial⟩
    simpa using h.article
  | cons c cs ih =>
    rw [Clear, ih, ← standsAt_one_iff]
    constructor
    · intro ⟨hfirst, hrest⟩ i
      cases i with
      | zero => exact hfirst
      | succ i =>
        rw [standsAt_succ]
        exact hrest i
    · intro h
      refine ⟨h 0, ?_⟩
      intro i
      rw [← standsAt_succ]
      exact h (i + 1)

theorem Extends.exists_endings {d : Char} (h : Extends Ls (opens d) cs ds) :
    ∃ ending : Nat → Option Char,
      (∀ i e, ending i = some e → ∃ L ∈ Ls, e = L.ending ∧ L.StandsAt (d :: cs) (i + 1)) ∧
      ds = (cs.mapIdx fun i c => c :: (ending i).toList).flatten := by
  generalize hready : opens d = ready at h
  induction h generalizing d with
  | nil => exact ⟨fun _ => none, by simp, rfl⟩
  | @keep ready c cs ds h ih =>
    obtain ⟨ending, hending, rfl⟩ := ih rfl
    refine ⟨fun i => if i = 0 then none else ending (i - 1), ?_, by simp [List.mapIdx_cons]⟩
    intro i e he
    cases i with
    | zero => simp at he
    | succ i =>
      obtain ⟨L, hL, rfl, hat⟩ := hending i e (by simpa using he)
      exact ⟨L, hL, rfl, standsAt_succ.2 hat⟩
  | @add L c cs ds hL hbegins h ih =>
    obtain ⟨ending, hending, rfl⟩ := ih rfl
    refine ⟨fun i => if i = 0 then some L.ending else ending (i - 1), ?_,
      by simp [List.mapIdx_cons]⟩
    intro i e he
    cases i with
    | zero =>
      obtain rfl : L.ending = e := by simpa using he
      exact ⟨L, hL, rfl, standsAt_one_iff.2 ⟨hready, hbegins⟩⟩
    | succ i =>
      obtain ⟨L, hL, rfl, hat⟩ := hending i e (by simpa using he)
      exact ⟨L, hL, rfl, standsAt_succ.2 hat⟩

end Places

/-- The first round leaves no two articles in a row, of either kind, and the second round no article
before a vowel: the passes for the two kinds do not disturb one another. -/
theorem clear_articles_articles (cs : List Char) :
    Clear .small true (articles (articles cs)) ∧ Clear .capital true (articles (articles cs)) := by
  have hsmall := pass_join .small true cs
  have hcapital := pass_join .capital true (small.join true cs)
  have hsmall' := pass_join .small true (articles cs)
  have hcapital' := pass_join .capital true (small.join true (articles cs))
  refine ⟨?_, ?_⟩
  · have hapart : Apart .small true (articles cs) := hsmall.apart.extends hcapital.extends
    exact (hsmall'.clear hapart).extends hcapital'.extends
  · have hapart : Apart .capital true (articles cs) := hcapital.apart
    exact hcapital'.clear (hapart.extends hsmall'.extends)

theorem articles_of_clear (hsmall : Clear .small true cs) (hcapital : Clear .capital true cs) :
    articles cs = cs := by
  have hfirst : small.join true cs = cs := (pass_join .small true cs).eq_self hsmall
  have hsecond : capital.join true cs = cs := (pass_join .capital true cs).eq_self hcapital
  change capital.join true (small.join true cs) = cs
  rw [hfirst, hsecond]

theorem extends_articles (cs : List Char) : Extends [.small, .capital] true cs (articles cs) :=
  (pass_join .small true cs).extends.trans (pass_join .capital true (small.join true cs)).extends

/-- What rounds of the article code do to a sentence. One round keeps every character and adds
nothing but an n after small articles and an N after capital ones, each of which stands at the start
of a line or after a space and before a space and a vowel of its case. After two rounds no such
article is left, so that a third changes nothing. -/
theorem articles_settle_in_two_rounds (s : String) :
    (∃ ending : Nat → Option Char,
      (∀ i e, ending i = some e →
        (e = 'n' ∧ small.StandsAt s.toList i) ∨ (e = 'N' ∧ capital.StandsAt s.toList i)) ∧
      (article.apply s).toList = (s.toList.mapIdx fun i c => c :: (ending i).toList).flatten) ∧
    (∀ i, ¬ small.StandsAt (article.apply (article.apply s)).toList i ∧
      ¬ capital.StandsAt (article.apply (article.apply s)).toList i) ∧
    article.apply (article.apply (article.apply s)) = article.apply (article.apply s) := by
  have hround (t : String) : (article.apply t).toList = articles t.toList := String.toList_ofList
  obtain ⟨hsmall, hcapital⟩ := clear_articles_articles s.toList
  refine ⟨?_, ?_, ?_⟩
  · obtain ⟨ending, hending, hwoven⟩ := (extends_articles s.toList).exists_endings (d := '\n')
    refine ⟨ending, ?_, (hround s).trans hwoven⟩
    intro i e he
    obtain ⟨L, hL, rfl, hat⟩ := hending i e he
    rw [← standsAt_iff] at hat
    rcases List.mem_pair.1 hL with rfl | rfl
    · exact .inl ⟨rfl, hat⟩
    · exact .inr ⟨rfl, hat⟩
  · intro i
    rw [hround, hround]
    exact ⟨mt standsAt_iff.1 (clear_iff.1 hsmall i), mt standsAt_iff.1 (clear_iff.1 hcapital i)⟩
  · rw [← String.toList_inj, hround, hround, hround, articles_of_clear hsmall hcapital]

/-- The second of two articles in a row waits for the second round. -/
example : article.apply "a a apple" = "an a apple" ∧ article.apply "an a apple" = "an an apple" := by
  decide

end ProseScript.FormatCode
