import ProseScript.Proofs.Run.StoreSteps
import ProseScript.Proofs.Store.Names

/-!
Names during a run. Main statement: a run puts no name into a second part of the store, and each
name without a period stays in the part where a look-up found it.
-/

namespace ProseScript.Run

theorem storeSteps_stable : StoreSteps Store.Stable where
  refl := Store.Stable.refl
  trans _ _ _ := Store.Stable.trans
  assign _ _ _ _ _ h := (Store.assigned_of_assign h).stable
  regroup s name g g' hg _ := by
    have hin : s.groups.contains (Text.lower name) = true := Option.isSome_iff_exists.2 ⟨g, hg⟩
    exact Store.stable_insertGroup hin g'

theorem carried_stable : Carried fun s t => s.store.Stable t.store :=
  storeSteps_stable.carried Store.stable_setSnippet

/-- A finished run leaves no name in two parts of the store that was not in both before, and every
name without a period where it was found, outside the variables with a value of the same kind. -/
theorem names_stay {limit : Nat} {ns : List Node} {counting : Counting} {progress stop : Nat}
    {s t : State} (h : execute limit ns counting progress stop s = .finished t) :
    (∀ name a b, a ≠ b → t.store.Lives name a → t.store.Lives name b →
      s.store.Lives name a ∧ s.store.Lives name b) ∧
    ∀ name, '.' ∉ name.toList → ∀ place, s.store.homeOf name = some place →
      t.store.homeOf name = some place ∧
        (place ≠ .user →
          (t.store.lookup name .all).map View.kind = (s.store.lookup name .all).map View.kind) := by
  have hstable : s.store.Stable t.store := carried_stable.reaches (reaches_of_execute h)
  refine ⟨hstable.apart, ?_⟩
  intro name hplain place hplace
  exact hstable.homeOf hplain hplace

def troupeStart : State :=
  Setup.initial ⟨.ofEntries [("noun", ["cat"])], .ofEntries [], .standard, .standard, "w", "s"⟩
    ⟨fun _ => 0, 0⟩

/-- Makes a group, replaces a word set and turns an alias into a variable of its own. -/
def troupeProgram : Program := [
  .block .gen ⟨1, "GEN actor 2"⟩ [] ⟨2, "GENEND"⟩,
  .line ⟨3, "ASSIGNLIST Noun = \"dog\" + noun"⟩,
  .line ⟨4, "ASSIGNLIST w = noun"⟩]

theorem names_stay_troupe :
    ∃ t, execute 2 troupeProgram .cycles 0 2 troupeStart = .finished t ∧
      t.store.homeOf "NOUN" = some .wordSet ∧ t.store.homeOf "w" = some .user := by
  have hfinished : (execute 2 troupeProgram .cycles 0 2 troupeStart).last?.isSome = true := by
    decide +kernel
  obtain ⟨t, ht⟩ := Outcome.exists_finished hfinished
  have hstay := (names_stay ht).2
  have hnoun := hstay "NOUN" (by decide) .wordSet (by decide +kernel)
  have hw := hstay "w" (by decide) .user (by decide +kernel)
  exact ⟨t, ht, hnoun.1, hw.1⟩

end ProseScript.Run
