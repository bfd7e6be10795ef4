import ProseScript.Proofs.Run.StoreSteps

/-!
The store during a run. Main statement: in every state of every run from a setup with distinct keys
the store is valid and its folders have the keys they began with; hence no pointer is found
undefined, and every name that is located can be read.
-/

namespace ProseScript

namespace Run

theorem storeSteps_keeps : StoreSteps Store.Keeps where
  refl := Store.Keeps.refl
  trans _ _ _ := Store.Keeps.trans
  assign _ _ _ _ hv h := Store.keeps_assign hv h
  regroup s name _ _ _ hpointed := s.keeps_setGroup hpointed name

theorem carried_keeps : Carried fun s t => s.store.Keeps t.store :=
  storeSteps_keeps.carried fun s name body => s.keeps_insertSnippet (Text.lower name) body

end Run

theorem Setup.valid_store {u : Setup} (hw : u.words.keys.Nodup) (hs : u.sentences.keys.Nodup) :
    u.store.Valid where
  groups := by simp [Setup.store, Store.setAlias, Store.ofFolders]
  kinds := by simp [Setup.store, Store.setAlias, Store.ofFolders]
  words := hw
  sentences := hs
  catalogs := by simp [Setup.store, Store.setAlias, Store.ofFolders]
  aliases := Table.nodup_insert (Table.nodup_insert Table.nodup_empty _ _) _ _
  apart := by simp [Setup.store, Store.setAlias, Store.ofFolders, Table.contains]

namespace Run

/-- The invariant of reached states: the store is valid, the folders have the keys of the setup, no
pointer is found undefined, and what is located can be read. -/
theorem store_valid_of_reaches {u : Setup} {words sentences : List (String × List String)}
    (hwords : u.words = .ofEntries words) (hsentences : u.sentences = .ofEntries sentences)
    {c : Chance} {limit : Nat} {ns : List Node} {counting : Counting} {progress stop : Nat}
    {t : State} (h : execute limit ns counting progress stop (u.initial c) = .finished t ∨
      Reaches limit ns (u.initial c) t) :
    t.store.Valid ∧
    t.store.words.keys = u.words.keys ∧ t.store.sentences.keys = u.sentences.keys ∧
    (∀ name g offset, t.store.groups.get? name = some g →
      g.shift offset ≠ .error .undefinedPointer) ∧
    ∀ name place slot, t.store.locate name place = some slot →
      ∃ v, t.store.read name slot = some v := by
  have hreach : Reaches limit ns (u.initial c) t := h.elim reaches_of_execute id
  have hkeeps : u.store.Keeps t.store := carried_keeps.reaches hreach
  have hvalid : t.store.Valid := hkeeps.valid (Setup.valid_store
    (hwords ▸ Table.nodup_ofEntries words) (hsentences ▸ Table.nodup_ofEntries sentences))
  refine ⟨hvalid, hkeeps.words, hkeeps.sentences, ?_, ?_⟩
  · intro name g offset hg
    exact Group.shift_ne_undefinedPointer (hvalid.groups name g hg) offset
  · intro name place slot hslot
    exact Store.exists_read_of_found hvalid (Store.found_of_locate hslot)

def crewSetup : Setup where
  words := .ofEntries [("noun", ["cat"])]
  sentences := .ofEntries []
  genders := .standard
  format := .standard
  wordsAlias := "w"
  sentencesAlias := "s"

/-- Makes a group of two and moves its pointer. -/
def crewProgram : Program := [
  .block .gen ⟨1, "GEN a 2"⟩ [] ⟨2, "GENEND"⟩,
  .line ⟨3, "SHIFT a -3"⟩]

theorem store_valid_of_reaches_crew :
    ∃ t, execute 2 crewProgram .cycles 0 2 (crewSetup.initial ⟨fun _ => 0, 0⟩) = .finished t ∧
      t.store.Valid ∧ t.store.words.keys = ["noun"] := by
  have hfinished : (execute 2 crewProgram .cycles 0 2
      (crewSetup.initial ⟨fun _ => 0, 0⟩)).last?.isSome = true := by
    decide +kernel
  obtain ⟨t, ht⟩ := Outcome.exists_finished hfinished
  have hinv := store_valid_of_reaches (u := crewSetup) rfl rfl (.inl ht)
  exact ⟨t, ht, hinv.1, hinv.2.1⟩

end Run

end ProseScript
