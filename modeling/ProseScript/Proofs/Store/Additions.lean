import ProseScript.Proofs.Store.Assignment
import ProseScript.Proofs.Store.Names

/-!
The names that assignments bring into the store. Main statement: a value is stored under a new name
only if the name was assigned to, as a group if it is one and else as a variable; and a dotted name
is found as a group, then as a field, then as a variable.
-/

namespace ProseScript

namespace Store

/-- A store has no groups and variables beyond those of another one but such as `G` and `V` admit. -/
structure Adds (G V : String → Prop) (s t : Store) : Prop where
  groups : ∀ name, t.Lives name .group → s.Lives name .group ∨ G name
  user : ∀ name, t.Lives name .user → s.Lives name .user ∨ V name

namespace Adds

variable {G V : String → Prop} {s t u : Store}

theorem refl (s : Store) : Adds G V s s := ⟨fun _ => .inl, fun _ => .inl⟩

theorem trans (hst : Adds G V s t) (htu : Adds G V t u) : Adds G V s u where
  groups name h := (htu.groups name h).elim (hst.groups name) .inr
  user name h := (htu.user name h).elim (hst.user name) .inr

theorem mono (h : Adds G V s t) {G' V' : String → Prop} (hG : ∀ name, G name → G' name)
    (hV : ∀ name, V name → V' name) : Adds G' V' s t where
  groups name hname := (h.groups name hname).imp_right (hG name)
  user name hname := (h.user name hname).imp_right (hV name)

theorem insertGroup (s : Store) {name : String} (g : Group)
    (hname : s.Lives name .group ∨ G name) :
    Adds G V s { s with groups := s.groups.insert name g } where
  groups k hk := by
    rcases (s.groups.contains_insert name k g).1 hk with rfl | hk
    · exact hname
    · exact .inl hk
  user _ := .inl

theorem insertVariable (s : Store) {name : String} (v : Value) (hname : V name) :
    Adds G V s { s with userVars := s.userVars.insert name v } where
  groups _ := .inl
  user k hk := by
    rcases hk with hk | hk
    · rcases (s.userVars.contains_insert name k v).1 hk with rfl | hk
      · exact .inr hname
      · exact .inl (.inl hk)
    · exact .inl (.inr hk)

theorem setVariable (s : Store) {name : String} (v : Value) (hname : s.Lives name .user) :
    Adds G V s (s.setVariable name v) where
  groups _ := .inl
  user k hk := by
    by_cases h : k = name
    · exact .inl (h ▸ hname)
    · refine .inl (hk.imp ?_ ?_)
      · intro hvar
        rwa [Store.setVariable, s.userVars.contains_insert_of_ne h] at hvar
      · intro halias
        rwa [Store.setVariable, Table.contains, s.aliases.get?_erase_of_ne h] at halias

end Adds

theorem Assigned.adds {s t : Store} {name : String} {v : Value} (h : Assigned s name v t) :
    Adds (fun k => v.kind = .group ∧ k = name) (fun k => v.kind ≠ .group ∧ k = name) s t := by
  cases h with
  | wordSet hslot => exact ⟨fun _ => .inl, fun _ => .inl⟩
  | sentenceSet hslot => exact ⟨fun _ => .inl, fun _ => .inl⟩
  | group hslot hg => exact .insertGroup s _ (.inl (Option.isSome_iff_exists.2 ⟨_, hg⟩))
  | field hslot hg hset => exact .insertGroup s _ (.inl (Option.isSome_iff_exists.2 ⟨_, hg⟩))
  | user hslot hkind =>
    refine .setVariable s v ?_
    rcases hslot with hslot | ⟨folder, hslot⟩
    · cases locate_all_iff.1 hslot with
      | user _ _ _ _ huser => exact .inl huser
    · cases locate_all_iff.1 hslot with
      | vocabulary _ _ _ _ _ halias => exact .inr (Option.isSome_iff_exists.2 ⟨_, halias⟩)
  | newGroup hnone => exact .insertGroup s _ (.inr ⟨rfl, rfl⟩)
  | newUser hnone hkind =>
    have hother : v.kind ≠ .group := by
      rcases hkind with hkind | hkind <;> simp [hkind]
    exact .insertVariable s v ⟨hother, rfl⟩

theorem adds_assignAll {l : Line} {v : Value} {names : List String} {s t : Store}
    {fault : Option Fault} (h : s.assignAll l v names = (t, fault)) :
    Adds (fun k => v.kind = .group ∧ ∃ word ∈ names, Text.lower word = k)
      (fun k => v.kind ≠ .group ∧ ∃ word ∈ names, Text.lower word = k) s t := by
  induction names generalizing s with
  | nil =>
    obtain ⟨rfl, -⟩ := Prod.mk.inj h
    exact .refl s
  | cons name rest ih =>
    simp only [assignAll] at h
    split at h
    · next u hu =>
      have hfirst := (assigned_of_assign hu).adds
      refine (hfirst.mono ?_ ?_).trans ((ih h).mono ?_ ?_)
      · rintro k ⟨hkind, rfl⟩
        exact ⟨hkind, name, List.mem_cons_self, rfl⟩
      · rintro k ⟨hkind, rfl⟩
        exact ⟨hkind, name, List.mem_cons_self, rfl⟩
      · rintro k ⟨hkind, word, hword, hk⟩
        exact ⟨hkind, word, List.mem_cons_of_mem _ hword, hk⟩
      · rintro k ⟨hkind, word, hword, hk⟩
        exact ⟨hkind, word, List.mem_cons_of_mem _ hword, hk⟩
    · obtain ⟨rfl, -⟩ := Prod.mk.inj h
      exact .refl s

theorem locate_group (s : Store) (name : String) :
    s.locate name .group = if s.groups.contains name then some .group else s.fieldSlot? name := by
  cases hgroup : s.groups.contains name <;> cases hfield : s.fieldSlot? name <;>
    simp [locate, hgroup, hfield]

section Dotted

variable {s : Store} {name group field : String}
  (hname : Text.splitDotted (Text.lower name) = some (group, field))
include hname

theorem lookup_group_of_dotted :
    s.lookup name .group =
      ((s.groups.get? (Text.lower name)).map View.group).or ((s.field? group field).map .list) := by
  cases hgroup : s.groups.get? (Text.lower name) with
  | some g => simp [lookup, locate_group, Table.contains, hgroup, read]
  | none =>
    cases hfield : s.field? group field with
    | none => simp [lookup, locate_group, Table.contains, hgroup, s.fieldSlot?_of_dotted hname, hfield]
    | some items =>
      have hread : s.read (Text.lower name) (.field group field) = some (.list items) := by
        rw [field?] at hfield
        simp [read, hfield]
      simp [lookup, locate_group, Table.contains, hgroup, s.fieldSlot?_of_dotted hname, hfield, hread]

theorem lookup_all_of_dotted (hwords : s.words.contains (Text.lower name) = false)
    (hsentences : s.sentences.contains (Text.lower name) = false) :
    s.lookup name .all = (s.lookup name .group).or (s.lookup name .user) := by
  have hall : s.locate (Text.lower name) .all =
      (s.locate (Text.lower name) .group).or (s.locate (Text.lower name) .user) := by
    rw [locate_all, locate_user, locate_group]
    cases hgroup : s.groups.contains (Text.lower name) <;> simp [hwords, hsentences]
  cases hfound : s.lookup name .group with
  | some view =>
    obtain ⟨slot, hslot, hread⟩ := Option.bind_eq_some_iff.1 hfound
    simp [lookup, hall, hslot, hread]
  | none =>
    -- What is located among the groups can be read, so nothing is located there.
    rw [lookup_group_of_dotted hname] at hfound
    obtain ⟨hgroup, hfield⟩ : s.groups.get? (Text.lower name) = none ∧ s.field? group field = none := by
      simpa using hfound
    have hnone : s.locate (Text.lower name) .group = none := by
      simp [locate_group, Table.contains, hgroup, s.fieldSlot?_of_dotted hname, hfield]
    simp [lookup, hall, hnone]

end Dotted

end Store

end ProseScript
