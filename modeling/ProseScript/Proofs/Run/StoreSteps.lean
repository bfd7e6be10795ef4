import ProseScript.Proofs.Run.Frame
import ProseScript.Proofs.Run.Reach
import ProseScript.Proofs.Store.Assignment

/-!
What commands do to the store. Main statement: they only assign values and replace groups that are
there, so a relation of stores that both keep to is kept by every command, and by every run if
storing snippets keeps to it as well.
-/

namespace ProseScript.Run

/-- A reflexive and transitive relation of stores that assignments and replaced groups keep to. -/
structure StoreSteps (R : Store → Store → Prop) : Prop where
  refl : ∀ s, R s s
  trans : ∀ s t u, R s t → R t u → R s u
  assign : ∀ s t name v, v.Sound → s.assign name v = .ok t → R s t
  regroup : ∀ s name g g', s.group? name = some g → (s.Valid → g'.Pointed) →
    R s (s.setGroup name g')

namespace StoreSteps

variable {R : Store → Store → Prop} (hR : StoreSteps R)
include hR

/-- Also an assignment that fails half-way. -/
theorem assignAll (l : Line) {v : Value} (hv : v.Sound) (names : List String) (s : Store) :
    R s (s.assignAll l v names).1 := by
  induction names generalizing s with
  | nil => exact hR.refl s
  | cons name rest ih =>
    simp only [Store.assignAll]
    split
    · next t ht => exact hR.trans _ _ _ (hR.assign s t name v hv ht) (ih t)
    · exact hR.refl s

theorem of_assignAll {l : Line} {v : Value} (hv : v.Sound) {names : List String} {s t : Store}
    {fault : Option Fault} (h : s.assignAll l v names = (t, fault)) : R s t := by
  have hstep := hR.assignAll l hv names s
  rw [h] at hstep
  exact hstep

theorem storeGroup {l : Line} {name : String} {members : List Entity} {s t : Store}
    (h : storeGroup l name members s = .ok t) : R s t := by
  obtain ⟨assigned, hassign, hlast⟩ := cases_of_storeGroup h
  have hstep := hR.assign s assigned name _ (Value.sound_group members) hassign
  rcases hlast with rfl | ⟨old, g, hold, hpoint, rfl⟩
  · exact hstep
  · exact hR.trans _ _ _ hstep
      (hR.regroup assigned name old g hold fun _ => Group.pointed_pointAt hpoint)

variable {l : Line} {s t : State}

theorem recite (h : recite l s = .ok t) : R s.store t.store := by
  obtain ⟨empty, name, item, lhs, rhs, -, hassign, -⟩ := parts_of_recite h
  exact hR.of_assignAll (Value.sound_list _) hassign

theorem shift (h : shift l s = .ok t) : R s.store t.store := by
  rcases store_of_shift h with hsame | ⟨name, g, g', offset, hg, hshift, ht⟩
  · rw [hsame]
    exact hR.refl s.store
  · rw [ht]
    exact hR.regroup s.store name g g' hg fun _ => Group.pointed_shift hshift

theorem shuffle (h : shuffle l s = .ok t) : R s.store t.store := by
  obtain ⟨name, g, hg, ht⟩ := store_of_shuffle h
  rw [ht]
  exact hR.regroup s.store name g _ hg fun hs => Group.pointed_shuffle (hs.groups _ g hg) s.chance

theorem assignLine {style : Style} (h : Run.assign style l s = .ok t) : R s.store t.store := by
  obtain ⟨lhs, rhs, v, chance, -, hv, hassign⟩ := parts_of_assign h
  exact hR.of_assignAll (Expression.sound_evaluate hv) hassign

theorem generate {body : List Node} (h : generate l body s = .ok t) : R s.store t.store := by
  obtain ⟨_, _, _, -, -, hstore, -⟩ := frame_generate h
  exact hR.storeGroup hstore

theorem simple {c : Command} (h : simple c l s = .ok t) : R s.store t.store := by
  unfold Run.simple at h
  split at h
  · exact hR.assignLine h
  cases c with
  | display => rw [frame_display h]; exact hR.refl s.store
  | format => rw [frame_setFormat h]; exact hR.refl s.store
  | newLine => rw [frame_writeFixed h]; exact hR.refl s.store
  | newPara => rw [frame_writeFixed h]; exact hR.refl s.store
  | newChapter => rw [frame_newChapter h]; exact hR.refl s.store
  | refGender => rw [frame_refGender h]; exact hR.refl s.store
  | recite => exact hR.recite h
  | shift => exact hR.shift h
  | shuffle => exact hR.shuffle h
  | _ => simp at h

theorem write {limit : Nat} (h : write limit l s = .finished t) : R s.store t.store := by
  rw [frame_write h]
  exact hR.refl s.store

/-- A run keeps to what commands and stored snippets keep to. -/
theorem carried (hsnippet : ∀ s name body, R s (Store.setSnippet s name body)) :
    Carried fun s t => R s.store t.store where
  refl s := hR.refl s.store
  trans _ _ _ := hR.trans _ _ _
  begun s _ := hR.refl s.store
  drawn s _ := hR.refl s.store
  simple _ _ _ _ _ := hR.simple
  write _ _ _ _ := hR.write
  generate _ _ _ _ := hR.generate
  snippet opener body s t h := by
    unfold storeSnippet at h
    split at h
    · next name _ =>
      rw [← Except.ok.inj h]
      exact hsnippet s.store name body
    · simp at h

end StoreSteps

end ProseScript.Run
