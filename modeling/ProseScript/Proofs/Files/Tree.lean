import ProseScript.Files.Tree

/-!
Trees that grow. Main statement: where a new file is made, nothing stood before, its path leads to
it afterwards, and every other place holds what it held.
-/

namespace ProseScript.FileTree

variable {t u : FileTree} {path text : String} {q place : List FileName} {e : FileEntry}

theorem follow_nil_eq_entry_iff :
    t.follow q [] = .entry place e ↔ q = place ∧ t.entry? q = some e := by
  unfold follow
  cases t.entry? q <;> simp

theorem follow_nil_eq_vacant_iff :
    t.follow q [] = .vacant place ↔ q = place ∧ t.entry? q = none := by
  unfold follow
  cases t.entry? q <;> simp

/-- The second tree holds all that the first holds. -/
def Keeps (t u : FileTree) : Prop := ∀ place e, t.entry? place = some e → u.entry? place = some e

namespace Keeps

theorem refl (t : FileTree) : t.Keeps t := fun _ _ h => h

/-- A way that is not blocked leads to the same place in a tree that holds more. -/
theorem follow_cases (hk : t.Keeps u) (q : List FileName) (parts : List String) :
    (∃ f, t.follow q parts = .blocked f) ∨
      ∃ last, t.follow q parts = t.follow last [] ∧ u.follow q parts = u.follow last [] := by
  induction parts generalizing q with
  | nil => exact .inr ⟨q, rfl, rfl⟩
  | cons part rest ih =>
    cases hq : t.entry? q with
    | none => exact .inl ⟨.notFound, by simp only [follow, hq]⟩
    | some e =>
      cases e with
      | text | binary => exact .inl ⟨.notADirectory, by simp only [follow, hq]⟩
      | directory =>
        simp only [follow, hq, hk q _ hq]
        split
        · exact ih q
        · split
          · exact ih _
          · split
            · exact .inl ⟨_, rfl⟩
            · exact ih _

theorem find_cases (hk : t.Keeps u) (path : String) :
    (∃ f, t.find path = .blocked f) ∨
      ∃ last, t.find path = t.follow last [] ∧ u.find path = u.follow last [] := by
  unfold find
  split
  · exact .inl ⟨_, rfl⟩
  · exact hk.follow_cases _ _

theorem find_entry (hk : t.Keeps u) (h : t.find path = .entry place e) :
    u.find path = .entry place e := by
  obtain ⟨f, hb⟩ | ⟨last, ht, hu⟩ := hk.find_cases path
  · simp [hb] at h
  · obtain ⟨rfl, he⟩ := follow_nil_eq_entry_iff.mp (ht.symm.trans h)
    exact hu.trans (follow_nil_eq_entry_iff.mpr ⟨rfl, hk _ _ he⟩)

theorem read (hk : t.Keeps u) (h : t.read path = .ok text) : u.read path = .ok text := by
  unfold FileTree.read at h ⊢
  split at h
  · next he => rw [hk.find_entry he]; exact h
  · cases h
  · cases h

/-- An entry at a place that was vacant is found by the path to that place. -/
theorem find_vacant (hk : t.Keeps u) (h : t.find path = .vacant place)
    (he : u.entry? place = some e) : u.find path = .entry place e := by
  obtain ⟨f, hb⟩ | ⟨last, ht, hu⟩ := hk.find_cases path
  · simp [hb] at h
  · obtain ⟨rfl, -⟩ := follow_nil_eq_vacant_iff.mp (ht.symm.trans h)
    exact hu.trans (follow_nil_eq_entry_iff.mpr ⟨rfl, he⟩)

end Keeps

/-- The second tree is the first with one more file, and the path leads to it. -/
structure Gains (t : FileTree) (path text : String) (place : List FileName) (u : FileTree) :
    Prop where
  vacant : t.find path = .vacant place
  found : u.find path = .entry place (.text text)
  entry?_eq : ∀ q, u.entry? q = if q = place then some (.text text) else t.entry? q

theorem keeps_of_entry?_eq (h : t.entry? place = none)
    (hu : ∀ q, u.entry? q = if q = place then some e else t.entry? q) : t.Keeps u := by
  intro q e' he
  have hq : q ≠ place := by
    rintro rfl
    simp [h] at he
  rw [hu, if_neg hq, he]

theorem Gains.keeps (h : t.Gains path text place u) : t.Keeps u :=
  keeps_of_entry?_eq (entry?_of_find h.vacant) h.entry?_eq

theorem create_eq_ok_iff :
    t.create path text = .ok u ↔ Path.namesFolder path = false ∧
      ∃ place, t.find path = .vacant place ∧ u = ⟨t.entries ++ [(place, .text text)]⟩ := by
  unfold create
  cases Path.namesFolder path <;> cases t.find path <;> simp [eq_comm]

/-- An entry added where nothing stood is the only change. -/
theorem entry?_append (h : t.entry? place = none) (e : FileEntry) (q : List FileName) :
    entry? ⟨t.entries ++ [(place, e)]⟩ q =
      if q = place then some e else t.entry? q := by
  unfold entry? at h ⊢
  split at h
  · cases h
  · rename_i hplace
    by_cases hq : q = place
    · simp [hq, hplace, List.lookup_append, h]
    · simp [hq, List.lookup_append, List.lookup_cons, beq_eq_false_iff_ne.mpr hq]

theorem gains_of_create (h : t.create path text = .ok u) : ∃ place, t.Gains path text place u := by
  obtain ⟨-, place, hv, rfl⟩ := create_eq_ok_iff.mp h
  have entries := entry?_append (entry?_of_find hv) (.text text)
  have keeps := keeps_of_entry?_eq (entry?_of_find hv) entries
  exact ⟨place, hv, keeps.find_vacant hv (by rw [entries, if_pos rfl]), entries⟩

/-- What exists cannot be made. -/
theorem create_of_holds (h : t.holds path = true) : t.create path text ≠ .ok u := by
  intro hc
  obtain ⟨-, place, hv, -⟩ := create_eq_ok_iff.mp hc
  simp [holds, hv] at h

end ProseScript.FileTree
