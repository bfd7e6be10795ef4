import ProseScript.Group

/-!
Pointers of groups. Main statement: every operation leaves the pointer absent when there are no
members and on a member otherwise.
-/

namespace ProseScript.Group

/-- The pointer is absent exactly when there are no members, and is otherwise the place of one. -/
structure Pointed (g : Group) : Prop where
  none_iff : g.pointer = none ↔ g.members = []
  lt : ∀ i, g.pointer = some i → i < g.members.length

theorem pointed_ofMembers (members : List Entity) : (ofMembers members).Pointed := by
  cases members with
  | nil => exact ⟨by simp [ofMembers], by simp [ofMembers]⟩
  | cons e rest => exact ⟨by simp [ofMembers], by simp [ofMembers]⟩

theorem pointed_replaceMembers (g : Group) (members : List Entity) :
    (g.replaceMembers members).Pointed := by
  refine ⟨g.pointer_replaceMembers_eq_none_iff members, ?_⟩
  intro i hi
  cases members with
  | nil => simp [replaceMembers] at hi
  | cons e rest =>
    simp only [replaceMembers, List.isEmpty_cons, Bool.false_eq_true, if_false,
      Option.some.injEq] at hi
    cases hplace : g.active?.bind fun a => (e :: rest).findIdx? (· == a) with
    | none =>
      rw [hplace] at hi
      simp [← hi]
    | some j =>
      obtain ⟨a, -, ha⟩ := Option.bind_eq_some_iff.1 hplace
      have hj : j < (e :: rest).length := (List.findIdx?_eq_some_iff_findIdx_eq.1 ha).1
      rw [hplace] at hi
      simpa [← hi] using hj

/-- A set field changes the active member only, and the pointer stays. -/
theorem setActive_eq_some_iff {g h : Group} {name : String} {items : List String} :
    g.setActive name items = some h ↔
      ∃ i e, g.pointer = some i ∧ g.members[i]? = some e ∧
        h = { g with members := g.members.set i (e.set name items) } := by
  unfold setActive
  constructor
  · intro hset
    split at hset
    · simp at hset
    · next i hi =>
      split at hset
      · simp at hset
      · next e he => exact ⟨i, e, hi, he, (Option.some.inj hset).symm⟩
  · rintro ⟨i, e, hi, he, rfl⟩
    simp [hi, he]

theorem active?_setActive {g h : Group} {name : String} {items : List String}
    (hset : g.setActive name items = some h) :
    ∃ e, g.active? = some e ∧ h.active? = some (e.set name items) := by
  obtain ⟨i, e, hi, he, rfl⟩ := setActive_eq_some_iff.1 hset
  have hlt : i < g.members.length := (List.getElem?_eq_some_iff.1 he).1
  exact ⟨e, by simp [active?, hi, he], by simp [active?, hi, hlt]⟩

theorem exists_setActive {g : Group} {e : Entity} (h : g.active? = some e) (name : String)
    (items : List String) : ∃ g', g.setActive name items = some g' := by
  obtain ⟨i, hi, he⟩ := Option.bind_eq_some_iff.1 h
  exact ⟨_, setActive_eq_some_iff.2 ⟨i, e, hi, he, rfl⟩⟩

theorem pointed_setActive {g h : Group} (hg : g.Pointed) {name : String} {items : List String}
    (hset : g.setActive name items = some h) : h.Pointed := by
  obtain ⟨i, e, -, -, rfl⟩ := setActive_eq_some_iff.1 hset
  refine ⟨?_, ?_⟩
  · simpa using hg.none_iff
  · simpa using hg.lt

theorem pointed_pointAt {g h : Group} {i : Nat} (hat : g.pointAt i = some h) : h.Pointed := by
  unfold pointAt at hat
  split at hat
  · next hi =>
    have hh : h = { g with pointer := some i } := by simpa using hat.symm
    subst hh
    refine ⟨?_, by simpa using hi⟩
    have hne : g.members ≠ [] := List.ne_nil_of_length_pos (by omega)
    simpa using hne
  · simp at hat

theorem pointed_shift {g h : Group} {offset : Int} (hshift : g.shift offset = .ok h) :
    h.Pointed := by
  unfold shift at hshift
  split at hshift
  · simp at hshift
  · next hempty =>
    have hne : g.members ≠ [] := by simpa using hempty
    have hpos : 0 < g.members.length := List.length_pos_iff.2 hne
    split at hshift
    · simp at hshift
    · next i hi =>
      have hh := (Except.ok.inj hshift).symm
      subst hh
      refine ⟨by simpa using hne, ?_⟩
      intro j hj
      have hval : (((i : Int) + offset) % g.members.length).toNat = j := by simpa using hj
      have hlow := Int.emod_nonneg ((i : Int) + offset) (b := g.members.length) (by omega)
      have hhigh := Int.emod_lt_of_pos ((i : Int) + offset) (b := g.members.length) (by omega)
      change j < g.members.length
      omega

theorem pointed_shuffle {g : Group} (hg : g.Pointed) (c : Chance) : (g.shuffle c).1.Pointed := by
  unfold shuffle
  split
  · exact hg
  · exact g.pointed_replaceMembers _

/-- A pointer that keeps to the members is never found undefined. -/
theorem shift_ne_undefinedPointer {g : Group} (hg : g.Pointed) (offset : Int) :
    g.shift offset ≠ .error .undefinedPointer := by
  intro h
  unfold shift at h
  split at h
  · simp at h
  · next hempty =>
    split at h
    · next hnone =>
      have hnil := hg.none_iff.1 hnone
      simp [hnil] at hempty
    · simp at h

end ProseScript.Group
