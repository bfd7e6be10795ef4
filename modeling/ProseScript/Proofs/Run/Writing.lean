import ProseScript.Proofs.Placeholder.Substitution
import ProseScript.Proofs.Run.Frame

/-!
The places that a `WRITE` line takes its sentences from. Main statement: a line that finishes has
gone from place to place, in order or never to the same place twice in a row, has written the
sentence of each with its placeholders filled, and has warned of those that it could not fill.
-/

namespace ProseScript

namespace Sampling

/-- The index `j` may come after `i`. -/
structure Follows (size : Nat) (ordered : Bool) (i j : Nat) : Prop where
  next : ordered = true → j = i + 1
  other : ordered = false → 2 ≤ size → j % size ≠ i % size

theorem follows_nextIndex (i size : Nat) (ordered : Bool) (c : Chance) :
    Follows size ordered i (nextIndex i size ordered c).1 where
  next h := by simp [nextIndex, h]
  other h hsize := by
    have hdraw := (Chance.uniform_mem .long (Nat.zero_le (size - 2)) c).2
    have hmany : ¬ size ≤ 1 := by omega
    simp only [nextIndex, h, Bool.false_eq_true, if_false, hmany]
    -- A draw that reaches the place itself is moved past it, so it stays below the size.
    split
    · rw [Nat.mod_eq_of_lt (by omega)]
      omega
    · rw [Nat.mod_eq_of_lt (by omega)]
      omega

/-- The places of indices that follow one another, the first of them `i`. -/
inductive Walk (size : Nat) (ordered : Bool) : Nat → List Nat → Prop
  | nil (i : Nat) : Walk size ordered i []
  | cons {i j : Nat} {places : List Nat} (hnext : Follows size ordered i j)
      (hrest : Walk size ordered j places) : Walk size ordered i (i % size :: places)

namespace Walk

variable {size i : Nat} {ordered : Bool} {places : List Nat}

theorem lt (h : Walk size ordered i places) (hsize : 0 < size) : ∀ place ∈ places, place < size := by
  induction h with
  | nil i => simp
  | @cons i j places _ _ ih => exact List.forall_mem_cons.2 ⟨Nat.mod_lt i hsize, ih⟩

theorem in_order (h : Walk size true i places) (k : Nat) {place : Nat}
    (hk : places[k]? = some place) : place = (i + k) % size := by
  induction h generalizing k with
  | nil i => simp at hk
  | @cons i j places hnext _ ih =>
    cases k with
    | zero => simpa using hk.symm
    | succ k =>
      rw [ih k (by simpa using hk), hnext.next rfl]
      congr 1
      omega

theorem isChain_ne (h : Walk size false i places) (hsize : 2 ≤ size) :
    places.IsChain (· ≠ ·) := by
  induction h with
  | nil i => exact .nil
  | @cons i j places hnext hrest ih =>
    cases hrest with
    | nil j => exact .singleton _
    | cons _ _ => exact .cons_cons (hnext.other rfl hsize).symm ih

end Walk

end Sampling

namespace Run

open Placeholder (Divides Filling weave)

namespace SentenceSource

/-- The value that the sentences are read from. -/
def view : SentenceSource → View
  | list items => .list items
  | catalog entries => .catalog entries

/-- The sentence stands at the place: as the item of a list, or in the entry of a catalog. -/
inductive Stands : SentenceSource → Nat → String → Prop
  | item {items : List String} {place : Nat} {sentence : String}
      (h : items[place]? = some sentence) : Stands (.list items) place sentence
  | alternative {entries : Catalog} {place : Nat} {name sentence : String} {sentences : List String}
      (h : entries.entries[place]? = some (name, sentences)) (hmem : sentence ∈ sentences) :
      Stands (.catalog entries) place sentence

theorem stands_of_pick {source : SentenceSource} {i : Nat} {c c' : Chance} {sentence : String}
    (h : source.pick i c = (some sentence, c')) : source.Stands (i % source.size) sentence := by
  cases source with
  | list items => exact .item (Prod.mk.inj h).1
  | catalog entries =>
    have hmem := Chance.mem_of_choose h
    cases hentry : entries.entries[i % entries.size]? with
    | none => simp [options, hentry] at hmem
    | some entry => exact .alternative hentry (by simpa [options, hentry] using hmem)

theorem size_pos {source : SentenceSource} (h : source.view.isEmpty = false) : 0 < source.size := by
  cases source with
  | list items => exact List.length_pos_iff.2 (by simpa [view, View.isEmpty] using h)
  | catalog entries =>
    exact List.length_pos_iff.2 (by simpa [view, View.isEmpty, Table.isEmpty] using h)

end SentenceSource

section Plan

variable {l : Line} {s : State}

theorem lookup_of_writeWords {name : String} {words : Catalog}
    (h : writeWords l s name = .ok words) : s.lookup name = some (.catalog words) := by
  unfold writeWords at h
  split at h
  · simp at h
  next view hview =>
  split at h
  · simp at h
  split at h
  · next entries => rw [hview, Except.ok.inj h]
  · simp at h

theorem lookup_of_writeSentences {name : String} {source : SentenceSource}
    (h : writeSentences l s name = .ok source) :
    s.lookup name = some source.view ∧ 0 < source.size := by
  unfold writeSentences at h
  split at h
  · simp at h
  next view hview =>
  split at h
  · simp at h
  next hsome =>
  have hnonempty : view.isEmpty = false := by simp_all
  split at h
  · next items =>
    obtain rfl := Except.ok.inj h
    exact ⟨hview, SentenceSource.size_pos hnonempty⟩
  · next entries =>
    obtain rfl := Except.ok.inj h
    exact ⟨hview, SentenceSource.size_pos hnonempty⟩
  · simp at h

theorem resolve_of_writeAmount {c c' : Chance} {text : String} {n : Nat} {counting : Counting}
    (h : writeAmount l c (some text) = .ok (n, counting, c')) :
    ∃ amount, Amount.ofText? text = some amount ∧ amount.resolve c = (n, c') ∧
      amount.counting = counting := by
  simp only [writeAmount] at h
  split at h
  · next amount hamount =>
    obtain ⟨hn, hrest⟩ := Prod.mk.inj (Except.ok.inj h)
    obtain ⟨hcounting, hc⟩ := Prod.mk.inj hrest
    exact ⟨amount, hamount, Prod.ext hn hc, hcounting⟩
  · simp at h

theorem ordered_of_writeOrder {option : Option String} {ordered : Bool}
    (h : writeOrder l option = .ok ordered) :
    ordered = true ↔ option.map Text.lower = some "order" := by
  cases option with
  | none => simp [← Except.ok.inj h]
  | some text =>
    simp only [writeOrder, beq_iff_eq] at h
    split at h
    · next horder => simp [← Except.ok.inj h, horder]
    · next hother =>
      split at h
      · simp [← Except.ok.inj h, hother]
      · simp at h

/-- The plan of a line with these parameters: what the names stand for, and what the options say. -/
structure WritePlan.Meets (p : WritePlan) (s : State) (sentencesWord wordsWord : String)
    (options : List String) : Prop where
  sentences : s.lookup (Text.lower sentencesWord) = some p.sentences.view
  nonempty : 0 < p.sentences.size
  words : s.lookup (Text.lower wordsWord) = some (.catalog p.words)
  wordsName : p.wordsName = Text.lower wordsWord
  single : options[0]? = none → p.amount = 1 ∧ p.counting = .cycles
  amount : ∀ text, options[0]? = some text → ∃ amount, Amount.ofText? text = some amount ∧
    (amount.resolve s.chance).1 = p.amount ∧ amount.counting = p.counting
  ordered : p.ordered = true ↔ options[1]?.map Text.lower = some "order"

theorem meets_of_writePlan {p : WritePlan} {chance : Chance}
    (h : writePlan l s = .ok (p, chance)) :
    ∃ sentencesWord wordsWord options, l.paramWords = sentencesWord :: wordsWord :: options ∧
      p.Meets s sentencesWord wordsWord options := by
  unfold writePlan at h
  split at h
  · next sentencesWord wordsWord options hparams =>
    split at h
    · simp at h
    obtain ⟨words, hwords, h⟩ := Fault.bind_eq_ok_iff.1 h
    obtain ⟨sentences, hsentences, h⟩ := Fault.bind_eq_ok_iff.1 h
    obtain ⟨⟨amount, counting, chance'⟩, hamount, h⟩ := Fault.bind_eq_ok_iff.1 h
    obtain ⟨ordered, hordered, h⟩ := Fault.bind_eq_ok_iff.1 h
    obtain ⟨rfl, -⟩ := Prod.mk.inj (Except.ok.inj h)
    obtain ⟨hsource, hnonempty⟩ := lookup_of_writeSentences hsentences
    refine ⟨sentencesWord, wordsWord, options, hparams, hsource, hnonempty,
      lookup_of_writeWords hwords, rfl, ?_, ?_, ordered_of_writeOrder hordered⟩
    · intro hnone
      rw [hnone] at hamount
      obtain ⟨rfl, hrest⟩ := Prod.mk.inj (Except.ok.inj hamount)
      exact ⟨rfl, (Prod.mk.inj hrest).1.symm⟩
    · intro text htext
      rw [htext] at hamount
      obtain ⟨a, ha, hresolve, hcounting⟩ := resolve_of_writeAmount hamount
      exact ⟨a, ha, congrArg Prod.fst hresolve, hcounting⟩
  · simp at h

end Plan

/-- A sentence that is written: its place in the source, its text there and its text when filled. -/
structure Pick where
  place : Nat
  sentence : String
  filled : Placeholder.Substitution

namespace Pick

/-- The sentence stands at the place, and is filled as its placeholders divide it, with the misses
of those that get no word. -/
structure Fits (p : WritePlan) (store : Store) (k : Pick) : Prop where
  stands : p.sentences.Stands k.place k.sentence
  substituted : ∃ c, (Placeholder.substitute k.sentence p.words store c).1 = k.filled
  divided : ∃ parts last fills, Divides k.sentence.toList parts last ∧
    List.Forall₂ (fun part f => Filling p.words store part.2 f.1 f.2) parts fills ∧
    k.filled.text = String.ofList (weave parts (fills.map Prod.fst) last) ∧
    k.filled.misses = fills.filterMap Prod.snd

/-- One warning about each miss. -/
def warnings (l : Line) (p : WritePlan) (k : Pick) : List Warning :=
  k.filled.misses.map (missWarning l p.wordsName)

theorem severity_of_mem_warnings {l : Line} {p : WritePlan} {k : Pick} {w : Warning}
    (h : w ∈ k.warnings l p) : w.severity = .severe := by
  obtain ⟨miss, -, rfl⟩ := List.mem_map.1 h
  rfl

end Pick

/-- The second state has the picks written since the first, and differs in nothing else but its
chance. -/
def Penned (l : Line) (p : WritePlan) (picks : List Pick) (s t : State) : Prop :=
  t = { s with
    output := s.output ++ (picks.map fun k => s.format.apply k.filled.text).toArray
    wordCount := s.wordCount +
      WordCount.ofOutput (picks.map fun k => s.format.apply k.filled.text)
    warnings := s.warnings ++ (picks.flatMap (Pick.warnings l p)).toArray
    chance := t.chance }

section Penned

variable {l : Line} {p : WritePlan} {s t : State}

theorem Penned.nil (l : Line) (p : WritePlan) (s : State) : Penned l p [] s s := by
  simp [Penned, WordCount.ofOutput]

theorem Penned.cons {u : State} {k : Pick} {picks : List Pick} (hk : Penned l p [k] s t)
    (hpicks : Penned l p picks t u) : Penned l p (k :: picks) s u := by
  unfold Penned at *
  rw [hpicks, hk]
  simp [WordCount.ofOutput, Nat.add_assoc]

theorem fits_substitute {store : Store} {place : Nat} {sentence : String}
    (hstands : p.sentences.Stands place sentence) (c : Chance) :
    Pick.Fits p store ⟨place, sentence, (Placeholder.substitute sentence p.words store c).1⟩ := by
  obtain ⟨parts, last, hdivides⟩ := Placeholder.exists_divides sentence.toList
  obtain ⟨fills, hfills, hresult⟩ := Placeholder.substitute_of_divides hdivides p.words store c
  refine ⟨hstands, ⟨c, rfl⟩, parts, last, fills, hdivides, hfills, ?_⟩
  simp [hresult]

/-- One step of writing takes a sentence from the place of its index and goes on to an index that may
follow. -/
theorem pick_of_writeOne {i j : Nat} (h : writeOne l p (i, s) = .finished (j, t)) :
    ∃ k : Pick, k.place = i % p.sentences.size ∧ k.Fits p s.store ∧ Penned l p [k] s t ∧
      Sampling.Follows p.sentences.size p.ordered i j := by
  simp only [writeOne] at h
  split at h
  · simp at h
  · next sentence c hpick =>
    obtain ⟨hj, ht⟩ := Prod.mk.inj (Outcome.finished.inj h)
    refine ⟨_, rfl, fits_substitute (SentenceSource.stands_of_pick hpick) c, ?_, ?_⟩
    · rw [← ht, State.warnAll_eq]
      simp [Penned, State.pushSentence, Pick.warnings, WordCount.ofOutput]
    · exact hj ▸ Sampling.follows_nextIndex ..

/-- Steps of writing in a row walk from place to place. -/
theorem picks_of_times {n i j : Nat}
    (h : Outcome.times (writeOne l p) n (i, s) = .finished (j, t)) :
    ∃ picks : List Pick, picks.length = n ∧
      Sampling.Walk p.sentences.size p.ordered i (picks.map Pick.place) ∧
      (∀ k ∈ picks, k.Fits p s.store) ∧ Penned l p picks s t := by
  induction n generalizing i s with
  | zero =>
    obtain ⟨-, rfl⟩ := Prod.mk.inj (Outcome.finished.inj h)
    exact ⟨[], rfl, .nil i, by simp, .nil l p s⟩
  | succ n ih =>
    rw [Outcome.times_succ] at h
    obtain ⟨⟨i', u⟩, hu, hrest⟩ := Outcome.bind_eq_finished_iff.1 h
    obtain ⟨k, hplace, hfits, hpenned, hnext⟩ := pick_of_writeOne hu
    obtain ⟨picks, hlength, hwalk, hall, hpicks⟩ := ih hrest
    have hstore : u.store = s.store := by rw [hpenned]
    rw [hstore] at hall
    refine ⟨k :: picks, by simp [hlength], ?_, List.forall_mem_cons.2 ⟨hfits, hall⟩,
      hpenned.cons hpicks⟩
    rw [List.map_cons, hplace]
    exact .cons hnext hwalk

/-- A `WRITE` line that finishes has written sentences that stand in its source, each with its
placeholders filled and formatted, and as many as it was asked for if it counts sentences. In order
they stand at one place after the other, over and over; at random no two in a row stand at the same
place if there are two. It has warned, severely, of every placeholder that got no word, in order,
and changed nothing else but its count of words and its chance. -/
theorem writing_walks_over_places {limit : Nat} (h : write limit l s = .finished t) :
    ∃ (sentencesWord wordsWord : String) (options : List String) (p : WritePlan)
      (picks : List Pick),
      l.paramWords = sentencesWord :: wordsWord :: options ∧
      p.Meets s sentencesWord wordsWord options ∧
      (p.counting = .cycles → picks.length = p.amount) ∧
      (∀ k ∈ picks, k.place < p.sentences.size ∧ k.Fits p s.store) ∧
      (p.ordered = true → ∀ (j : Nat) (k : Pick), picks[j]? = some k →
        k.place = j % p.sentences.size) ∧
      (p.ordered = false → 2 ≤ p.sentences.size → (picks.map Pick.place).IsChain (· ≠ ·)) ∧
      (∀ w ∈ picks.flatMap (Pick.warnings l p), w.severity = .severe) ∧
      Penned l p picks s t := by
  obtain ⟨p, chance, n, j, hplan, hamount, hrun⟩ := times_of_write h
  obtain ⟨sentencesWord, wordsWord, options, hparams, hmeets⟩ := meets_of_writePlan hplan
  obtain ⟨picks, hlength, hwalk, hfits, hpenned⟩ := picks_of_times hrun
  refine ⟨sentencesWord, wordsWord, options, p, picks, hparams, hmeets, ?_, ?_, ?_, ?_, ?_,
    hpenned⟩
  · intro hcycles
    rw [hlength, hamount hcycles]
  · intro k hk
    exact ⟨hwalk.lt hmeets.nonempty k.place (List.mem_map_of_mem hk), hfits k hk⟩
  · intro hordered j k hk
    rw [hordered] at hwalk
    have hstart : (startIndex p chance).1 = 0 := by simp [startIndex, hordered]
    have hplace : k.place = ((startIndex p chance).1 + j) % p.sentences.size :=
      hwalk.in_order j (by simp [hk])
    rw [hplace, hstart, Nat.zero_add]
  · intro hrandom hsize
    rw [hrandom] at hwalk
    exact hwalk.isChain_ne hsize
  · intro w hw
    obtain ⟨k, -, hk⟩ := List.mem_flatMap.1 hw
    exact Pick.severity_of_mem_warnings hk

/-- Four sentences in order from a list of three, one with a placeholder that no word is listed for. -/
theorem writing_walks_over_places_steps :
    let u : Setup := ⟨.ofEntries [("noun", ["cat"])],
      .ofEntries [("steps", ["the _noun_ sat", "a _ghost_ came", "end"])], .standard, .standard,
      "w", "s"⟩
    let s := u.initial ⟨fun _ => 0, 0⟩
    let l : Line := ⟨1, "WRITE steps w 4 ORDER"⟩
    ∃ t p picks, write 0 l s = .finished t ∧ picks.length = 4 ∧
      (∀ (j : Nat) (k : Pick), picks[j]? = some k → k.place = j % 3 ∧ k.Fits p s.store) ∧
      (∀ w ∈ picks.flatMap (Pick.warnings l p), w.severity = .severe) ∧ Penned l p picks s t := by
  intro u s l
  have hrun : (write 0 l s).last?.isSome = true := by decide +kernel
  obtain ⟨t, ht⟩ := Outcome.exists_finished hrun
  obtain ⟨sentencesWord, wordsWord, options, p, picks, hparams, hmeets, hamount, hfits, horder, -,
    hsevere, hpenned⟩ := writing_walks_over_places ht
  have hwords : l.paramWords = ["steps", "w", "4", "ORDER"] := by decide +kernel
  obtain ⟨rfl, hrest⟩ := List.cons.inj (hwords.symm.trans hparams)
  obtain ⟨rfl, rfl⟩ := List.cons.inj hrest
  have hsize : p.sentences.size = 3 := by
    have hitems : (s.lookup (Text.lower "steps")).bind View.list? =
        some ["the _noun_ sat", "a _ghost_ came", "end"] := by
      decide +kernel
    rw [hmeets.sentences] at hitems
    cases hsource : p.sentences with
    | list items =>
      rw [hsource] at hitems
      obtain rfl := Option.some.inj hitems
      rfl
    | catalog entries => simp [hsource, SentenceSource.view, View.list?] at hitems
  have hordered : p.ordered = true := hmeets.ordered.2 (by decide +kernel)
  have hfour : Amount.ofText? "4" = some (.count 4) := by decide +kernel
  obtain ⟨amount, htext, hfinal, hcounting⟩ := hmeets.amount "4" rfl
  obtain rfl := Option.some.inj (hfour.symm.trans htext)
  refine ⟨t, p, picks, ht, (hamount hcounting.symm).trans hfinal.symm, ?_, hsevere, hpenned⟩
  intro j k hk
  exact ⟨hsize ▸ horder hordered j k hk, (hfits k (List.mem_of_getElem? hk)).2⟩

end Penned

end Run

end ProseScript
