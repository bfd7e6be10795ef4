import ProseScript.Proofs.Group
import ProseScript.Proofs.Table
import ProseScript.Store

/-!
The invariant of stores. Main statement: whatever is assigned under a name, the store stays valid and
the two vocabulary folders keep their keys; in a valid store every name that is located can be read.
-/

namespace ProseScript

/-- A catalog to be stored has distinct keys. -/
def Value.Sound (v : Value) : Prop := ∀ entries, v = .catalog entries → entries.keys.Nodup

theorem Value.sound_list (items : List String) : (Value.list items).Sound := by
  intro entries h
  cases h

theorem Value.sound_group (members : List Entity) : (Value.group members).Sound := by
  intro entries h
  cases h

namespace Store

/-- What every store keeps to while programs run. -/
structure Valid (s : Store) : Prop where
  /-- Pointers are absent exactly in groups without members, and are places of members else. -/
  groups : ∀ name g, s.groups.get? name = some g → g.Pointed
  /-- Variables hold lists and catalogs only. -/
  kinds : ∀ name v, s.userVars.get? name = some v → v.kind = .list ∨ v.kind = .catalog
  words : s.words.keys.Nodup
  sentences : s.sentences.keys.Nodup
  catalogs : ∀ name entries, s.userVars.get? name = some (.catalog entries) → entries.keys.Nodup
  aliases : s.aliases.keys.Nodup
  /-- No name is both a variable and an alias. -/
  apart : ∀ name, ¬ (s.userVars.contains name = true ∧ s.aliases.contains name = true)

/-- All catalogs of a store have distinct keys. -/
structure Keyed (s : Store) : Prop where
  words : s.words.keys.Nodup
  sentences : s.sentences.keys.Nodup
  catalogs : ∀ name entries, s.userVars.get? name = some (.catalog entries) → entries.keys.Nodup

theorem Keyed.nodup_of_lookup {s : Store} (hs : s.Keyed) {name : String} {place : Namespace}
    {entries : Catalog} (h : s.lookup name place = some (.catalog entries)) :
    entries.keys.Nodup := by
  obtain ⟨slot, -, hread⟩ := Option.bind_eq_some_iff.1 h
  cases slot with
  | user =>
    simp only [read] at hread
    split at hread
    · simp at hread
    · next hv =>
      obtain rfl := View.catalog.inj (Option.some.inj hread)
      exact hs.catalogs _ _ hv
    · simp at hread
  | vocabulary folder =>
    cases folder with
    | words =>
      obtain rfl := View.catalog.inj (Option.some.inj hread)
      exact hs.words
    | sentences =>
      obtain rfl := View.catalog.inj (Option.some.inj hread)
      exact hs.sentences
  | _ =>
    obtain ⟨_, -, hview⟩ := Option.map_eq_some_iff.1 hread
    cases hview

/-- What finding a name in a slot tells about the store. -/
def Found (s : Store) (name : String) : Slot → Prop
  | .wordSet => s.words.contains name = true
  | .sentenceSet => s.sentences.contains name = true
  | .group => s.groups.contains name = true
  | .field group field =>
      ∃ e, (s.groups.get? group).bind Group.active? = some e ∧ e.has field = true
  | .user => s.userVars.contains name = true
  | .vocabulary folder => s.aliases.get? name = some folder
  | .snippet => s.snippets.contains name = true

theorem found_of_fieldSlot? {s : Store} {name : String} {slot : Slot}
    (h : s.fieldSlot? name = some slot) : s.Found name slot := by
  unfold fieldSlot? at h
  split at h
  · simp at h
  · split at h
    · next e he =>
      split at h
      · next hfield =>
        have hslot := Option.some.inj h
        rw [← hslot]
        exact ⟨e, he, hfield⟩
      · simp at h
    · simp at h

theorem found_of_locate {s : Store} {name : String} {place : Namespace} {slot : Slot}
    (h : s.locate name place = some slot) : s.Found name slot := by
  unfold locate at h
  split at h
  · split at h
    · next hin => exact Option.some.inj h ▸ hin
    · simp at h
  split at h
  · next hin => exact Option.some.inj h ▸ hin.2
  split at h
  · next hin => exact Option.some.inj h ▸ hin.2
  dsimp only at h
  split at h
  · next found hfound =>
    rw [← Option.some.inj h]
    split at hfound
    · split at hfound
      · next hin => exact Option.some.inj hfound ▸ hin
      · exact found_of_fieldSlot? hfound
    · simp at hfound
  · split at h
    · split at h
      · next hin => exact Option.some.inj h ▸ hin
      · obtain ⟨folder, hfolder, hslot⟩ := Option.map_eq_some_iff.1 h
        exact hslot ▸ hfolder
    · simp at h

/-- A name that is found nowhere is no alias. -/
theorem not_alias_of_locate {s : Store} {name : String} (h : s.locate name .all = none) :
    s.aliases.contains name = false := by
  unfold locate at h
  simp only [reduceCtorEq, if_false, true_or, true_and, if_true] at h
  split at h
  · simp at h
  split at h
  · simp at h
  split at h
  · simp at h
  split at h
  · simp at h
  · simpa [Table.contains] using h

/-- In a valid store a name that is found has a value. -/
theorem exists_read_of_found {s : Store} (hs : s.Valid) {name : String} {slot : Slot}
    (h : s.Found name slot) : ∃ v, s.read name slot = some v := by
  cases slot with
  | wordSet =>
    obtain ⟨items, hitems⟩ := Option.isSome_iff_exists.1 h
    exact ⟨.list items, by simp [read, hitems]⟩
  | sentenceSet =>
    obtain ⟨items, hitems⟩ := Option.isSome_iff_exists.1 h
    exact ⟨.list items, by simp [read, hitems]⟩
  | group =>
    obtain ⟨g, hg⟩ := Option.isSome_iff_exists.1 h
    exact ⟨.group g, by simp [read, hg]⟩
  | field group field =>
    obtain ⟨e, he, hfield⟩ := h
    obtain ⟨items, hitems⟩ := Option.isSome_iff_exists.1 hfield
    exact ⟨.list items, by simp [read, he, hitems]⟩
  | user =>
    obtain ⟨v, hv⟩ := Option.isSome_iff_exists.1 h
    have hkind := hs.kinds name v hv
    cases v with
    | list items => exact ⟨.list items, by simp [read, hv]⟩
    | catalog entries => exact ⟨.catalog entries, by simp [read, hv]⟩
    | group members => simp [Value.kind] at hkind
    | snippet body => simp [Value.kind] at hkind
  | vocabulary folder => cases folder <;> exact ⟨_, rfl⟩
  | snippet =>
    obtain ⟨body, hbody⟩ := Option.isSome_iff_exists.1 h
    exact ⟨.snippet body, by simp [read, hbody]⟩

namespace Valid

variable {s : Store} (hs : s.Valid)
include hs

theorem insertGroup {g : Group} (hg : g.Pointed) (name : String) :
    Valid { s with groups := s.groups.insert name g } where
  groups := by
    intro n h hn
    rw [Table.get?_insert] at hn
    split at hn
    · exact Option.some.inj hn ▸ hg
    · exact hs.groups n h hn
  kinds := hs.kinds
  words := hs.words
  sentences := hs.sentences
  catalogs := hs.catalogs
  aliases := hs.aliases
  apart := hs.apart

/-- A variable may be put where no alias of its name stands. -/
theorem insertVariable {v : Value} (hkind : v.kind = .list ∨ v.kind = .catalog) (hv : v.Sound)
    {name : String} (hname : s.aliases.contains name = false) :
    Valid { s with userVars := s.userVars.insert name v } where
  groups := hs.groups
  kinds := by
    intro n w hn
    rw [Table.get?_insert] at hn
    split at hn
    · exact Option.some.inj hn ▸ hkind
    · exact hs.kinds n w hn
  words := hs.words
  sentences := hs.sentences
  catalogs := by
    intro n entries hn
    rw [Table.get?_insert] at hn
    split at hn
    · exact hv entries (Option.some.inj hn)
    · exact hs.catalogs n entries hn
  aliases := hs.aliases
  apart := by
    rintro n ⟨hvar, halias⟩
    rcases (Table.contains_insert _ _ _ _).1 hvar with rfl | hvar
    · simp [hname] at halias
    · exact hs.apart n ⟨hvar, halias⟩

theorem eraseAlias (name : String) : Valid { s with aliases := s.aliases.erase name } where
  groups := hs.groups
  kinds := hs.kinds
  words := hs.words
  sentences := hs.sentences
  catalogs := hs.catalogs
  aliases := Table.nodup_erase hs.aliases name
  apart := by
    rintro n ⟨hvar, halias⟩
    have hold := (Table.contains_erase hs.aliases name n).1 halias
    exact hs.apart n ⟨hvar, hold.2⟩

theorem setVariable {v : Value} (hkind : v.kind = .list ∨ v.kind = .catalog) (hv : v.Sound)
    (name : String) : (s.setVariable name v).Valid := by
  have hgone : (s.aliases.erase name).contains name = false := by
    rw [Bool.eq_false_iff]
    intro h
    exact ((Table.contains_erase hs.aliases name name).1 h).1 rfl
  exact (hs.eraseAlias name).insertVariable hkind hv hgone

end Valid

/-- The folders keep their keys, and a valid store stays valid. -/
structure Keeps (s t : Store) : Prop where
  words : t.words.keys = s.words.keys
  sentences : t.sentences.keys = s.sentences.keys
  valid : s.Valid → t.Valid

namespace Keeps

theorem refl (s : Store) : s.Keeps s := ⟨rfl, rfl, id⟩

theorem trans {s t u : Store} (hst : s.Keeps t) (htu : t.Keeps u) : s.Keeps u :=
  ⟨htu.words.trans hst.words, htu.sentences.trans hst.sentences, htu.valid ∘ hst.valid⟩

end Keeps

theorem keeps_setGroup (s : Store) {g : Group} (hg : s.Valid → g.Pointed) (name : String) :
    s.Keeps (s.setGroup name g) :=
  ⟨rfl, rfl, fun hs => hs.insertGroup (hg hs) (Text.lower name)⟩

theorem keeps_insertSnippet (s : Store) (name : String) (body : List Node) :
    s.Keeps { s with snippets := s.snippets.insert name body } :=
  ⟨rfl, rfl, fun hs => ⟨hs.groups, hs.kinds, hs.words, hs.sentences, hs.catalogs, hs.aliases,
    hs.apart⟩⟩

theorem keeps_setVariable (s : Store) {v : Value} (hkind : v.kind = .list ∨ v.kind = .catalog)
    (hv : v.Sound) (name : String) : s.Keeps (s.setVariable name v) :=
  ⟨rfl, rfl, fun hs => hs.setVariable hkind hv name⟩

/-- Writing into a slot where the name was found. -/
theorem keeps_write {s t : Store} {name : String} {slot : Slot} (hfound : s.Found name slot)
    {v : Value} (hv : v.Sound) (h : s.write name slot v = .ok t) : s.Keeps t := by
  unfold write at h
  split at h
  · next items =>
    have hkeys := Table.keys_insert_of_contains hfound items
    rw [← Except.ok.inj h]
    exact ⟨hkeys, rfl, fun hs => ⟨hs.groups, hs.kinds, hkeys ▸ hs.words, hs.sentences, hs.catalogs,
      hs.aliases, hs.apart⟩⟩
  · next items =>
    have hkeys := Table.keys_insert_of_contains hfound items
    rw [← Except.ok.inj h]
    exact ⟨rfl, hkeys, fun hs => ⟨hs.groups, hs.kinds, hs.words, hkeys ▸ hs.sentences, hs.catalogs,
      hs.aliases, hs.apart⟩⟩
  · next members =>
    split at h
    · next g hg =>
      rw [← Except.ok.inj h]
      exact ⟨rfl, rfl, fun hs => hs.insertGroup (g.pointed_replaceMembers members) name⟩
    · exact Except.ok.inj h ▸ Keeps.refl s
  · next group field items =>
    split at h
    · next g hg =>
      obtain ⟨old, hold, hset⟩ := Option.bind_eq_some_iff.1 hg
      rw [← Except.ok.inj h]
      exact ⟨rfl, rfl, fun hs =>
        hs.insertGroup (Group.pointed_setActive (hs.groups group old hold) hset) group⟩
    · simp at h
  · exact Except.ok.inj h ▸ s.keeps_setVariable (.inl rfl) hv name
  · exact Except.ok.inj h ▸ s.keeps_setVariable (.inr rfl) hv name
  · exact Except.ok.inj h ▸ s.keeps_setVariable (.inl rfl) hv name
  · exact Except.ok.inj h ▸ s.keeps_setVariable (.inr rfl) hv name
  · exact Except.ok.inj h ▸ s.keeps_insertSnippet name _
  · simp at h

/-- Creating a name that is no alias. -/
theorem keeps_create {s t : Store} {name : String} (hname : s.aliases.contains name = false)
    {v : Value} (hv : v.Sound) (h : s.create name v = .ok t) : s.Keeps t := by
  cases v with
  | group members =>
    rw [← Except.ok.inj h]
    exact ⟨rfl, rfl, fun hs => hs.insertGroup (Group.pointed_ofMembers members) name⟩
  | list items =>
    rw [← Except.ok.inj h]
    exact ⟨rfl, rfl, fun hs => hs.insertVariable (.inl rfl) hv hname⟩
  | catalog entries =>
    rw [← Except.ok.inj h]
    exact ⟨rfl, rfl, fun hs => hs.insertVariable (.inr rfl) hv hname⟩
  | snippet body => cases h

theorem keeps_assign {s t : Store} {name : String} {v : Value} (hv : v.Sound)
    (h : s.assign name v = .ok t) : s.Keeps t := by
  simp only [assign] at h
  split at h
  · next slot hslot => exact keeps_write (found_of_locate hslot) hv h
  · next hnone => exact keeps_create (not_alias_of_locate hnone) hv h

end Store

end ProseScript
