import Mathlib.Data.List.Perm.Basic
import ProseScript.Proofs.Group

/-!
Groups with other members. Main statement: the pointer follows the active member to the first place
where its like stands, so that a shuffled group has the same active member as before.
-/

namespace ProseScript

open scoped List

namespace Chance

variable {α : Type}

theorem swapIfInBounds_perm (xs : Array α) (i j : Nat) :
    (xs.swapIfInBounds i j).toList ~ xs.toList := by
  rw [Array.swapIfInBounds_def]
  split
  · next hi =>
    split
    · next hj => exact (Array.swap_perm hi hj).toList
    · exact .refl _
  · exact .refl _

theorem shuffleFrom_perm (i : Nat) (xs : Array α) (c : Chance) :
    (shuffleFrom i xs c).1.toList ~ xs.toList := by
  induction i generalizing xs c with
  | zero => exact .refl _
  | succ i ih =>
    have hswap := swapIfInBounds_perm xs (i + 1) (c.uniform .short 0 (i + 1)).1
    exact (ih _ _).trans hswap

/-- A shuffle gives the same items, each as often as before. -/
theorem shuffle_perm (xs : List α) (c : Chance) : (c.shuffle xs).1 ~ xs :=
  shuffleFrom_perm (xs.length - 1) xs.toArray c

end Chance

namespace Group

/-- The first place at which an entity stands. -/
structure FirstAt (members : List Entity) (e : Entity) (i : Nat) : Prop where
  here : members[i]? = some e
  not_before : ∀ j < i, members[j]? ≠ some e

variable {g : Group} {members : List Entity} {e : Entity}

theorem findIdx?_eq_some_iff {i : Nat} :
    members.findIdx? (· == e) = some i ↔ FirstAt members e i := by
  rw [List.findIdx?_eq_some_iff_getElem]
  constructor
  · intro ⟨hi, heq, hbefore⟩
    refine ⟨?_, ?_⟩
    · rw [List.getElem?_eq_getElem hi, eq_of_beq heq]
    · intro j hj hat
      obtain ⟨hlt, hsame⟩ := List.getElem?_eq_some_iff.1 hat
      exact hbefore j hj (by simp [hsame])
  · intro h
    obtain ⟨hi, heq⟩ := List.getElem?_eq_some_iff.1 h.here
    refine ⟨hi, by simp [heq], ?_⟩
    intro j hj hat
    apply h.not_before j hj
    rw [List.getElem?_eq_getElem (by omega), eq_of_beq hat]

theorem exists_firstAt (h : e ∈ members) : ∃ i, FirstAt members e i := by
  have hfound := List.findIdx?_eq_some_of_exists (p := (· == e)) ⟨e, h, beq_self_eq_true e⟩
  exact ⟨_, findIdx?_eq_some_iff.1 hfound⟩

theorem pointer_of_firstAt (he : g.active? = some e) {i : Nat} (hi : FirstAt members e i) :
    (g.replaceMembers members).pointer = some i := by
  have hne : members.isEmpty = false := by
    have hlt := (List.getElem?_eq_some_iff.1 hi.here).1
    simpa using List.ne_nil_of_length_pos (by omega)
  simp [replaceMembers, he, findIdx?_eq_some_iff.2 hi, hne]

theorem pointer_of_lost (hne : members ≠ []) (hlost : ∀ e, g.active? = some e → e ∉ members) :
    (g.replaceMembers members).pointer = some 0 := by
  have hnone : (g.active?.bind fun e => members.findIdx? (· == e)) = none := by
    rw [Option.bind_eq_none_iff]
    intro e he
    rw [List.findIdx?_eq_none_iff]
    intro x hx
    exact beq_false_of_ne fun heq => hlost e he (heq ▸ hx)
  simp [replaceMembers, hnone, hne]

/-- An active member that is among the new ones stays active. -/
theorem active?_replaceMembers (he : g.active? = some e) (hmem : e ∈ members) :
    (g.replaceMembers members).active? = some e := by
  obtain ⟨i, hi⟩ := exists_firstAt hmem
  simp only [active?, pointer_of_firstAt he hi, members_replaceMembers, Option.bind_some, hi.here]

theorem Pointed.exists_active (h : g.Pointed) (hne : g.members ≠ []) :
    ∃ e, g.active? = some e ∧ e ∈ g.members := by
  obtain ⟨i, hi⟩ := Option.ne_none_iff_exists'.1 (mt h.none_iff.1 hne)
  have hlt := h.lt i hi
  exact ⟨g.members[i], by simp [active?, hi, hlt], List.getElem_mem hlt⟩

theorem shuffle_of_le_one (h : g.members.length ≤ 1) (c : Chance) : g.shuffle c = (g, c) := by
  simp [shuffle, h]

theorem shuffle_of_two_le (h : 2 ≤ g.members.length) (c : Chance) :
    (g.shuffle c).1 = g.replaceMembers (c.shuffle g.members).1 := by
  have hmany : ¬ g.members.length ≤ 1 := by omega
  simp [shuffle, hmany]

/-- What replacing and shuffling do to the pointer of a group. After a replacement it is absent
exactly when there are no members; it is on the first member equal to the one that was active, and on
the first of all if there is none. A shuffle orders the members anew and keeps the active one, with
the pointer on the first of its like; a group of at most one member stays as it is. -/
theorem pointer_follows_active :
    (∀ (g : Group) (members : List Entity),
      (g.replaceMembers members).members = members ∧
      ((g.replaceMembers members).pointer = none ↔ members = []) ∧
      (∀ e i, g.active? = some e → FirstAt members e i →
        (g.replaceMembers members).pointer = some i) ∧
      (members ≠ [] → (∀ e, g.active? = some e → e ∉ members) →
        (g.replaceMembers members).pointer = some 0)) ∧
    ∀ (g : Group) (c : Chance), g.Pointed →
      (g.shuffle c).1.members ~ g.members ∧ (g.shuffle c).1.active? = g.active? ∧
      (g.members.length ≤ 1 → (g.shuffle c).1 = g) ∧
      (2 ≤ g.members.length → ∃ e i, g.active? = some e ∧ (g.shuffle c).1.pointer = some i ∧
        FirstAt (g.shuffle c).1.members e i) := by
  constructor
  · intro g members
    refine ⟨rfl, g.pointer_replaceMembers_eq_none_iff members, ?_, pointer_of_lost⟩
    intro e i he hi
    exact pointer_of_firstAt he hi
  · intro g c hg
    rcases Nat.lt_or_ge 1 g.members.length with hmany | hfew
    · have hperm := c.shuffle_perm g.members
      obtain ⟨e, he, hmem⟩ := hg.exists_active (List.ne_nil_of_length_pos (by omega))
      have hstays : e ∈ (c.shuffle g.members).1 := hperm.mem_iff.2 hmem
      obtain ⟨i, hi⟩ := exists_firstAt hstays
      rw [shuffle_of_two_le hmany]
      refine ⟨hperm, ?_, by omega, ?_⟩
      · rw [active?_replaceMembers he hstays, he]
      · intro _
        exact ⟨e, i, he, pointer_of_firstAt he hi, hi⟩
    · rw [shuffle_of_le_one hfew]
      exact ⟨.refl _, rfl, fun _ => rfl, by omega⟩

/-- Two members alike and one apart. A shuffle leaves the pointer on the first of the two that are
alike; and the one apart is followed to its new place. -/
theorem pointer_follows_active_crew :
    let ann : Entity := ⟨[("name", ["Ann"])]⟩
    let g : Group := ⟨[ann, .blank, .blank], some 2⟩
    let h : Group := ⟨[ann, .blank, .blank], some 0⟩
    g.Pointed ∧ g.active? = some .blank ∧ h.active? = some ann ∧
    (∀ c : Chance, (g.shuffle c).1.members ~ g.members ∧
      (g.shuffle c).1.active? = some .blank ∧
      ∃ i, (g.shuffle c).1.pointer = some i ∧ FirstAt (g.shuffle c).1.members .blank i) ∧
    (h.replaceMembers [.blank, ann]).pointer = some 1 ∧
    (h.replaceMembers [.blank]).pointer = some 0 ∧ (h.replaceMembers []).pointer = none := by
  intro ann g h
  have hg : g.Pointed := ⟨by decide, by decide⟩
  have hactive : g.active? = some .blank := by decide
  have hann : h.active? = some ann := by decide
  refine ⟨hg, hactive, hann, ?_, ?_, ?_, ?_⟩
  · intro c
    obtain ⟨hperm, hsame, -, hfirst⟩ := pointer_follows_active.2 g c hg
    obtain ⟨e, i, he, hpointer, hi⟩ := hfirst (by decide)
    obtain rfl : Entity.blank = e := Option.some.inj (hactive.symm.trans he)
    exact ⟨hperm, hsame.trans hactive, i, hpointer, hi⟩
  · exact (pointer_follows_active.1 h _).2.2.1 ann 1 hann ⟨rfl, by decide⟩
  · refine (pointer_follows_active.1 h _).2.2.2 (by decide) ?_
    intro e he
    obtain rfl : ann = e := Option.some.inj (hann.symm.trans he)
    decide
  · exact (pointer_follows_active.1 h _).2.1.2 rfl

end Group

end ProseScript
