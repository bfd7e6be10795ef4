import ProseScript.Proofs.Store.Valid
import ProseScript.Proofs.Text.Name

/-!
Where names are found, and what an assignment does there. Main statement: an assignment either
replaces what its name was found to hold or creates the name, and it is refused exactly when the
place found cannot hold such a value.
-/

namespace ProseScript.Store

/-- The list in a field of the active member of a group. -/
def field? (s : Store) (group field : String) : Option (List String) :=
  ((s.groups.get? group).bind Group.active?).bind fun e => e.get? field

theorem fieldSlot?_of_dotted (s : Store) {name group field : String}
    (h : Text.splitDotted name = some (group, field)) :
    s.fieldSlot? name =
      if (s.field? group field).isSome then some (.field group field) else none := by
  cases hactive : (s.groups.get? group).bind Group.active? with
  | none => simp [fieldSlot?, field?, h, hactive]
  | some e =>
    have hhas : (s.field? group field).isSome = e.has field := by
      simp [field?, hactive, Entity.has]
    simp only [fieldSlot?, h, hactive, hhas]

theorem fieldSlot?_of_plain (s : Store) {name : String} (h : Text.splitDotted name = none) :
    s.fieldSlot? name = none := by
  unfold fieldSlot?
  rw [h]

theorem fieldSlot?_eq_some_iff {s : Store} {name : String} {slot : Slot} :
    s.fieldSlot? name = some slot ↔
      ∃ group field, Text.splitDotted name = some (group, field) ∧
        (s.field? group field).isSome = true ∧ slot = .field group field := by
  cases hname : Text.splitDotted name with
  | none => simp [s.fieldSlot?_of_plain hname]
  | some parts =>
    obtain ⟨group, field⟩ := parts
    rw [s.fieldSlot?_of_dotted hname]
    constructor
    · intro h
      split at h
      · next hsome => exact ⟨group, field, rfl, hsome, (Option.some.inj h).symm⟩
      · simp at h
    · rintro ⟨_, _, hparts, hsome, rfl⟩
      obtain ⟨rfl, rfl⟩ := Prod.mk.inj (Option.some.inj hparts)
      rw [if_pos hsome]

/-- The order in which the parts of the store are searched. -/
theorem locate_all (s : Store) (name : String) :
    s.locate name .all =
      if s.words.contains name then some .wordSet
      else if s.sentences.contains name then some .sentenceSet
      else if s.groups.contains name then some .group
      else (s.fieldSlot? name).or
        (if s.userVars.contains name then some .user
          else (s.aliases.get? name).map .vocabulary) := by
  unfold locate
  cases hfield : s.fieldSlot? name <;> cases hgroup : s.groups.contains name <;> simp

/-- How the search for a name in the whole store ends. -/
inductive Search (s : Store) (name : String) : Option Slot → Prop
  | wordSet (hwords : s.words.contains name = true) : Search s name (some .wordSet)
  | sentenceSet (hwords : s.words.contains name = false)
      (hsentences : s.sentences.contains name = true) : Search s name (some .sentenceSet)
  | group (hwords : s.words.contains name = false) (hsentences : s.sentences.contains name = false)
      (hgroups : s.groups.contains name = true) : Search s name (some .group)
  | field {group field : String} (hwords : s.words.contains name = false)
      (hsentences : s.sentences.contains name = false) (hgroups : s.groups.contains name = false)
      (hname : Text.splitDotted name = some (group, field))
      (hfield : (s.field? group field).isSome = true) : Search s name (some (.field group field))
  | user (hwords : s.words.contains name = false) (hsentences : s.sentences.contains name = false)
      (hgroups : s.groups.contains name = false) (hfield : s.fieldSlot? name = none)
      (huser : s.userVars.contains name = true) : Search s name (some .user)
  | vocabulary {folder : Folder} (hwords : s.words.contains name = false)
      (hsentences : s.sentences.contains name = false) (hgroups : s.groups.contains name = false)
      (hfield : s.fieldSlot? name = none) (huser : s.userVars.contains name = false)
      (halias : s.aliases.get? name = some folder) : Search s name (some (.vocabulary folder))
  | nowhere (hwords : s.words.contains name = false)
      (hsentences : s.sentences.contains name = false) (hgroups : s.groups.contains name = false)
      (hfield : s.fieldSlot? name = none) (huser : s.userVars.contains name = false)
      (halias : s.aliases.get? name = none) : Search s name none

theorem search_locate (s : Store) (name : String) : Search s name (s.locate name .all) := by
  rw [locate_all]
  cases hwords : s.words.contains name with
  | true => exact .wordSet hwords
  | false =>
  cases hsentences : s.sentences.contains name with
  | true => exact .sentenceSet hwords hsentences
  | false =>
  cases hgroups : s.groups.contains name with
  | true => exact .group hwords hsentences hgroups
  | false =>
  cases hfield : s.fieldSlot? name with
  | some slot =>
    obtain ⟨group, field, hname, hsome, rfl⟩ := fieldSlot?_eq_some_iff.1 hfield
    exact .field hwords hsentences hgroups hname hsome
  | none =>
  cases huser : s.userVars.contains name with
  | true => exact .user hwords hsentences hgroups hfield huser
  | false =>
  cases halias : s.aliases.get? name with
  | some folder => exact .vocabulary hwords hsentences hgroups hfield huser halias
  | none => exact .nowhere hwords hsentences hgroups hfield huser halias

theorem locate_all_iff {s : Store} {name : String} {slot : Option Slot} :
    s.locate name .all = slot ↔ Search s name slot := by
  constructor
  · rintro rfl
    exact s.search_locate name
  · intro h
    rw [locate_all]
    cases h with
    | field hwords hsentences hgroups hname hfield =>
      simp [*, s.fieldSlot?_of_dotted hname]
    | _ => simp [*]

/-- Only a dotted name denotes a field, by its two sides. -/
theorem dotted_of_locate {s : Store} {name group field : String} {place : Namespace}
    (h : s.locate name place = some (.field group field)) :
    Text.splitDotted name = some (group, field) := by
  unfold locate at h
  split at h
  · split at h <;> simp at h
  split at h
  · simp at h
  split at h
  · simp at h
  dsimp only at h
  split at h
  · next slot hslot =>
    rw [Option.some.inj h] at hslot
    split at hslot
    · split at hslot
      · simp at hslot
      · obtain ⟨_, _, hname, -, heq⟩ := fieldSlot?_eq_some_iff.1 hslot
        obtain ⟨rfl, rfl⟩ := Slot.field.inj heq
        exact hname
    · simp at hslot
  · split at h
    · split at h
      · simp at h
      · simp at h
    · simp at h

/-- A kind of value that may not be stored where a name was found, or under a new name. -/
def Refuses (slot : Option Slot) (kind : Kind) : Prop :=
  match slot with
  | some .wordSet => kind ≠ .list
  | some .sentenceSet => kind ≠ .list
  | some (.field _ _) => kind ≠ .list
  | some .group => kind ≠ .group
  | some .user => kind ≠ .list ∧ kind ≠ .catalog
  | some (.vocabulary _) => kind ≠ .list ∧ kind ≠ .catalog
  | some .snippet => kind ≠ .snippet
  | none => kind = .snippet

theorem write_eq_error_iff {s : Store} {name : String} {slot : Slot} (hfound : s.Found name slot)
    (v : Value) (e : StoreFault) :
    s.write name slot v = .error e ↔
      Refuses (some slot) v.kind ∧ e = .mismatch slot.holds.1 slot.holds.2 v.kind := by
  cases slot with
  | group =>
    obtain ⟨g, hg⟩ := Option.isSome_iff_exists.1 hfound
    cases v <;> simp [write, Refuses, Value.kind, hg, eq_comm]
  | field group field =>
    obtain ⟨active, hactive, -⟩ := hfound
    obtain ⟨g, hg, hgactive⟩ := Option.bind_eq_some_iff.1 hactive
    cases v with
    | list items =>
      obtain ⟨g', hset⟩ := Group.exists_setActive hgactive field items
      simp [write, Refuses, Value.kind, hg, hset]
    | _ => simp [write, Refuses, Value.kind, eq_comm]
  | _ => cases v <;> simp [write, Refuses, Value.kind, eq_comm]

theorem create_eq_error_iff (s : Store) (name : String) (v : Value) (e : StoreFault) :
    s.create name v = .error e ↔ Refuses none v.kind ∧ e = .mismatch .user .list v.kind := by
  cases v <;> simp [create, Refuses, Value.kind, eq_comm]

/-- An assignment is refused exactly when the place cannot hold the value, never because the name is
missing. -/
theorem assign_eq_error_iff (s : Store) (name : String) (v : Value) (e : StoreFault) :
    s.assign name v = .error e ↔
      Refuses (s.locate (Text.lower name) .all) v.kind ∧
        e = .mismatch ((s.locate (Text.lower name) .all).getD .user).holds.1
          ((s.locate (Text.lower name) .all).getD .user).holds.2 v.kind := by
  simp only [assign]
  cases hslot : s.locate (Text.lower name) .all with
  | some slot => exact write_eq_error_iff (found_of_locate hslot) v e
  | none => exact create_eq_error_iff s (Text.lower name) v e

/-- The ways in which a value is stored under a lower-case name. -/
inductive Assigned (s : Store) (name : String) : Value → Store → Prop
  | wordSet {items : List String} (hslot : s.locate name .all = some .wordSet) :
      Assigned s name (.list items) { s with words := s.words.insert name items }
  | sentenceSet {items : List String} (hslot : s.locate name .all = some .sentenceSet) :
      Assigned s name (.list items) { s with sentences := s.sentences.insert name items }
  | group {members : List Entity} {g : Group} (hslot : s.locate name .all = some .group)
      (hg : s.groups.get? name = some g) :
      Assigned s name (.group members)
        { s with groups := s.groups.insert name (g.replaceMembers members) }
  | field {group field : String} {items : List String} {g g' : Group}
      (hslot : s.locate name .all = some (.field group field)) (hg : s.groups.get? group = some g)
      (hset : g.setActive field items = some g') :
      Assigned s name (.list items) { s with groups := s.groups.insert group g' }
  | user {v : Value} (hslot : s.locate name .all = some .user ∨
      ∃ folder, s.locate name .all = some (.vocabulary folder))
      (hkind : v.kind = .list ∨ v.kind = .catalog) : Assigned s name v (s.setVariable name v)
  | newGroup {members : List Entity} (hnone : s.locate name .all = none) :
      Assigned s name (.group members)
        { s with groups := s.groups.insert name (.ofMembers members) }
  | newUser {v : Value} (hnone : s.locate name .all = none)
      (hkind : v.kind = .list ∨ v.kind = .catalog) :
      Assigned s name v { s with userVars := s.userVars.insert name v }

theorem Assigned.snippets_eq {s t : Store} {name : String} {v : Value} (h : Assigned s name v t) :
    t.snippets = s.snippets := by
  cases h <;> rfl

theorem assigned_of_write {s t : Store} {name : String} {slot : Slot} {v : Value}
    (hslot : s.locate name .all = some slot) (h : s.write name slot v = .ok t) :
    Assigned s name v t := by
  unfold write at h
  split at h
  · exact Except.ok.inj h ▸ .wordSet hslot
  · exact Except.ok.inj h ▸ .sentenceSet hslot
  · split at h
    · next g hg => exact Except.ok.inj h ▸ .group hslot hg
    · next hnone =>
      have hin : s.groups.contains name = true := found_of_locate hslot
      simp [Table.contains, hnone] at hin
  · split at h
    · next g' hset =>
      obtain ⟨g, hg, hset⟩ := Option.bind_eq_some_iff.1 hset
      exact Except.ok.inj h ▸ .field hslot hg hset
    · simp at h
  · exact Except.ok.inj h ▸ .user (.inl hslot) (.inl rfl)
  · exact Except.ok.inj h ▸ .user (.inl hslot) (.inr rfl)
  · exact Except.ok.inj h ▸ .user (.inr ⟨_, hslot⟩) (.inl rfl)
  · exact Except.ok.inj h ▸ .user (.inr ⟨_, hslot⟩) (.inr rfl)
  · cases locate_all_iff.1 hslot
  · simp at h

theorem assigned_of_assign {s t : Store} {name : String} {v : Value}
    (h : s.assign name v = .ok t) : Assigned s (Text.lower name) v t := by
  simp only [assign] at h
  split at h
  · next slot hslot => exact assigned_of_write hslot h
  · next hnone =>
    cases v with
    | group members => exact Except.ok.inj h ▸ .newGroup hnone
    | list items => exact Except.ok.inj h ▸ .newUser hnone (.inl rfl)
    | catalog entries => exact Except.ok.inj h ▸ .newUser hnone (.inr rfl)
    | snippet body => simp [create] at h

end ProseScript.Store
