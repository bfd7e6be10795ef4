import ProseScript.Proofs.Store.Locate

/-!
The parts of the store that a name stands in. Main statement: assignments put no name into a second
part, take none away and move none.
-/

namespace ProseScript.Store

/-- A lower-case name stands in one of the four parts of the store that are searched together. The
fields of a group have no names of their own. -/
def Lives (s : Store) (name : String) : Namespace → Prop
  | .wordSet => s.words.contains name = true
  | .sentenceSet => s.sentences.contains name = true
  | .group => s.groups.contains name = true
  | .user => s.userVars.contains name = true ∨ s.aliases.contains name = true
  | .snippet => False
  | .all => False

/-- The part of the store in which a look-up in the whole store finds a name. -/
def homeOf (s : Store) (name : String) : Option Namespace :=
  (s.locate (Text.lower name) .all).bind fun slot =>
    (s.read (Text.lower name) slot).map fun _ => slot.holds.1

theorem locate_user (s : Store) (name : String) :
    s.locate name .user =
      if s.userVars.contains name then some .user else (s.aliases.get? name).map .vocabulary := by
  simp [locate]

/-- A look-up among the variables finds the lower-case name. -/
def FindsUser (s : Store) (name : String) : Prop :=
  ((s.locate name .user).bind (s.read name)).isSome = true

theorem findsUser_of_value {s : Store} {name : String} {v : Value}
    (hv : s.userVars.get? name = some v) (hkind : v.kind = .list ∨ v.kind = .catalog) :
    s.FindsUser name := by
  have huser : s.userVars.contains name = true := by simp [Table.contains, hv]
  unfold FindsUser
  rw [locate_user, if_pos huser]
  cases v with
  | list items => simp [read, hv]
  | catalog entries => simp [read, hv]
  | group members => simp [Value.kind] at hkind
  | snippet body => simp [Value.kind] at hkind

theorem findsUser_congr {s t : Store} {name : String}
    (hvars : t.userVars.get? name = s.userVars.get? name)
    (haliases : t.aliases.get? name = s.aliases.get? name) (h : s.FindsUser name) :
    t.FindsUser name := by
  have hcontains : t.userVars.contains name = s.userVars.contains name :=
    congrArg Option.isSome hvars
  unfold FindsUser at *
  rw [locate_user] at *
  rw [hcontains, haliases]
  split
  · next huser =>
    rw [if_pos huser] at h
    simpa [read, hvars] using h
  · next huser =>
    rw [if_neg huser] at h
    cases hfolder : s.aliases.get? name with
    | none => simp [hfolder] at h
    | some folder => cases folder <;> rfl

theorem FindsUser.lives {s : Store} {name : String} (h : s.FindsUser name) :
    s.Lives name .user := by
  unfold FindsUser at h
  rw [locate_user] at h
  split at h
  · next huser => exact .inl huser
  · cases hfolder : s.aliases.get? name with
    | none => simp [hfolder] at h
    | some folder => exact .inr (by simp [Table.contains, hfolder])

/-- What a store keeps to while values are stored in it: folders have the same names, groups and
variables stay, and no name comes to stand in a second part. -/
structure Stable (s t : Store) : Prop where
  words : ∀ name, t.words.contains name = s.words.contains name
  sentences : ∀ name, t.sentences.contains name = s.sentences.contains name
  groups : ∀ name, s.groups.contains name = true → t.groups.contains name = true
  user : ∀ name, s.FindsUser name → t.FindsUser name
  apart : ∀ name a b, a ≠ b → t.Lives name a → t.Lives name b → s.Lives name a ∧ s.Lives name b

namespace Stable

theorem refl (s : Store) : s.Stable s :=
  ⟨fun _ => rfl, fun _ => rfl, fun _ => id, fun _ => id, fun _ _ _ _ ha hb => ⟨ha, hb⟩⟩

theorem trans {s t u : Store} (hst : s.Stable t) (htu : t.Stable u) : s.Stable u where
  words name := (htu.words name).trans (hst.words name)
  sentences name := (htu.sentences name).trans (hst.sentences name)
  groups name h := htu.groups name (hst.groups name h)
  user name h := htu.user name (hst.user name h)
  apart name a b hab hua hub := by
    obtain ⟨hta, htb⟩ := htu.apart name a b hab hua hub
    exact hst.apart name a b hab hta htb

end Stable

/-- Every name stands where it stood, or in one part only. -/
def OneHome (s t : Store) : Prop :=
  ∀ name, (∀ a, t.Lives name a → s.Lives name a) ∨ ∃ home, ∀ a, t.Lives name a → a = home

theorem OneHome.apart {s t : Store} (h : s.OneHome t) (name : String) (a b : Namespace)
    (hab : a ≠ b) (hta : t.Lives name a) (htb : t.Lives name b) :
    s.Lives name a ∧ s.Lives name b := by
  rcases h name with hold | ⟨home, honly⟩
  · exact ⟨hold a hta, hold b htb⟩
  · exact absurd ((honly a hta).trans (honly b htb).symm) hab

theorem stable_insertGroup {s : Store} {name : String} (hin : s.groups.contains name = true)
    (g : Group) : s.Stable { s with groups := s.groups.insert name g } where
  words _ := rfl
  sentences _ := rfl
  groups k hk := (Table.contains_insert_of_contains hin g k).trans hk
  user k := findsUser_congr rfl rfl
  apart := by
    refine OneHome.apart fun k => .inl fun a => ?_
    cases a with
    | group => exact fun hk => (Table.contains_insert_of_contains hin g k).symm.trans hk
    | _ => exact id

/-- A variable put in the place of another or of an alias. -/
theorem stable_setVariable {s : Store} {name : String} (hname : s.Lives name .user) {v : Value}
    (hkind : v.kind = .list ∨ v.kind = .catalog) : s.Stable (s.setVariable name v) where
  words _ := rfl
  sentences _ := rfl
  groups _ := id
  user k hk := by
    by_cases h : k = name
    · subst h
      exact findsUser_of_value (Table.get?_insert_self _ _ _) hkind
    · have hvars : (s.setVariable name v).userVars.get? k = s.userVars.get? k := by
        rw [setVariable, Table.get?_insert, if_neg h]
      exact findsUser_congr hvars (s.aliases.get?_erase_of_ne h) hk
  apart := by
    refine OneHome.apart fun k => .inl fun a => ?_
    cases a with
    | user =>
      by_cases h : k = name
      · exact fun _ => h ▸ hname
      · have hvars : (s.userVars.insert name v).contains k = s.userVars.contains k :=
          s.userVars.contains_insert_of_ne h v
        have haliases : (s.aliases.erase name).contains k = s.aliases.contains k :=
          congrArg Option.isSome (s.aliases.get?_erase_of_ne h)
        simp [Lives, setVariable, hvars, haliases]
    | _ => exact id

theorem not_lives_of_locate {s : Store} {name : String} (h : s.locate name .all = none)
    (place : Namespace) : ¬ s.Lives name place := by
  cases locate_all_iff.1 h with
  | nowhere hwords hsentences hgroups hfield huser halias =>
    have halias' : s.aliases.contains name = false := by simp [Table.contains, halias]
    cases place <;> simp [Lives, hwords, hsentences, hgroups, huser, halias']

/-- A name that was found nowhere is put into one part. -/
theorem OneHome.of_new {s t : Store} {name : String} (hnone : s.locate name .all = none)
    (home : Namespace)
    (hname : ∀ a ≠ home, t.Lives name a → s.Lives name a)
    (hothers : ∀ k ≠ name, ∀ a, t.Lives k a → s.Lives k a) : s.OneHome t := by
  intro k
  by_cases hk : k = name
  · right
    refine ⟨home, fun a ha => ?_⟩
    by_contra hne
    -- In any other part it would have stood before.
    rw [hk] at ha
    exact not_lives_of_locate hnone a (hname a hne ha)
  · left
    exact hothers k hk

theorem stable_newGroup {s : Store} {name : String} (hnone : s.locate name .all = none)
    (g : Group) : s.Stable { s with groups := s.groups.insert name g } where
  words _ := rfl
  sentences _ := rfl
  groups k hk := (s.groups.contains_insert name k g).2 (.inr hk)
  user k := findsUser_congr rfl rfl
  apart := by
    refine (OneHome.of_new hnone .group ?_ ?_).apart
    · intro a ha
      cases a with
      | group => exact absurd rfl ha
      | _ => exact id
    · intro k hk a
      cases a with
      | group => exact fun h => (s.groups.contains_insert_of_ne hk g).symm.trans h
      | _ => exact id

theorem stable_newUser {s : Store} {name : String} (hnone : s.locate name .all = none)
    (v : Value) : s.Stable { s with userVars := s.userVars.insert name v } where
  words _ := rfl
  sentences _ := rfl
  groups _ := id
  user k hk := by
    have hne : k ≠ name := by
      rintro rfl
      exact not_lives_of_locate hnone .user hk.lives
    have hvars : (s.userVars.insert name v).get? k = s.userVars.get? k := by
      rw [Table.get?_insert, if_neg hne]
    exact findsUser_congr (s := s) hvars rfl hk
  apart := by
    refine (OneHome.of_new hnone .user ?_ ?_).apart
    · intro a ha
      cases a with
      | user => exact absurd rfl ha
      | _ => exact id
    · intro k hk a
      cases a with
      | user => simp [Lives, s.userVars.contains_insert_of_ne hk v]
      | _ => exact id

theorem Assigned.stable {s t : Store} {name : String} {v : Value} (h : Assigned s name v t) :
    s.Stable t := by
  cases h with
  | @wordSet items hslot =>
    cases locate_all_iff.1 hslot with
    | wordSet hin =>
      have hsame := Table.contains_insert_of_contains hin items
      refine ⟨hsame, fun _ => rfl, fun _ => id, fun _ => findsUser_congr rfl rfl, ?_⟩
      refine OneHome.apart fun k => .inl fun a => ?_
      cases a with
      | wordSet => exact fun hk => (hsame k).symm.trans hk
      | _ => exact id
  | @sentenceSet items hslot =>
    cases locate_all_iff.1 hslot with
    | sentenceSet _ hin =>
      have hsame := Table.contains_insert_of_contains hin items
      refine ⟨fun _ => rfl, hsame, fun _ => id, fun _ => findsUser_congr rfl rfl, ?_⟩
      refine OneHome.apart fun k => .inl fun a => ?_
      cases a with
      | sentenceSet => exact fun hk => (hsame k).symm.trans hk
      | _ => exact id
  | group _ hg => exact stable_insertGroup (by simp [Table.contains, hg]) _
  | field _ hg _ => exact stable_insertGroup (by simp [Table.contains, hg]) _
  | user hslot hkind =>
    refine stable_setVariable ?_ hkind
    rcases hslot with hslot | ⟨folder, hslot⟩
    · exact .inl (found_of_locate hslot)
    · have halias : s.aliases.get? name = some folder := found_of_locate hslot
      exact .inr (by simp [Table.contains, halias])
  | newGroup hnone => exact stable_newGroup hnone _
  | newUser hnone _ => exact stable_newUser hnone _

theorem stable_setSnippet (s : Store) (name : String) (body : List Node) :
    s.Stable (s.setSnippet name body) := by
  refine ⟨fun _ => rfl, fun _ => rfl, fun _ => id, fun _ => findsUser_congr rfl rfl, ?_⟩
  refine OneHome.apart fun k => .inl fun a => ?_
  cases a <;> exact id

/-- Where a look-up finds a name without a period. -/
inductive Home (s : Store) (name : String) : Namespace → Prop
  | wordSet (hwords : s.words.contains name = true) : Home s name .wordSet
  | sentenceSet (hwords : s.words.contains name = false)
      (hsentences : s.sentences.contains name = true) : Home s name .sentenceSet
  | group (hwords : s.words.contains name = false) (hsentences : s.sentences.contains name = false)
      (hgroups : s.groups.contains name = true) : Home s name .group
  | user (hwords : s.words.contains name = false) (hsentences : s.sentences.contains name = false)
      (hgroups : s.groups.contains name = false) (huser : s.FindsUser name) : Home s name .user

theorem locate_all_eq_user {s : Store} {name : String} (hplain : Text.splitDotted name = none)
    (hwords : s.words.contains name = false) (hsentences : s.sentences.contains name = false)
    (hgroups : s.groups.contains name = false) : s.locate name .all = s.locate name .user := by
  rw [locate_all, locate_user, s.fieldSlot?_of_plain hplain]
  simp [hwords, hsentences, hgroups]

theorem lookup_of_locate {s : Store} {name : String} {slot : Slot}
    (h : s.locate (Text.lower name) .all = some slot) :
    s.lookup name .all = s.read (Text.lower name) slot := by
  simp [lookup, h]

theorem homeOf_of_locate {s : Store} {name : String} {slot : Slot}
    (h : s.locate (Text.lower name) .all = some slot) :
    s.homeOf name = (s.read (Text.lower name) slot).map fun _ => slot.holds.1 := by
  simp [homeOf, h]

theorem home_of_homeOf {s : Store} {name : String} {place : Namespace}
    (hplain : Text.splitDotted (Text.lower name) = none) (h : s.homeOf name = some place) :
    s.Home (Text.lower name) place := by
  cases hslot : s.locate (Text.lower name) .all with
  | none => simp [homeOf, hslot] at h
  | some slot =>
    rw [homeOf_of_locate hslot] at h
    obtain ⟨view, hread, rfl⟩ := Option.map_eq_some_iff.1 h
    -- The variable and the alias are found among the variables as well.
    have hfinds : ∀ place, s.locate (Text.lower name) place = some slot →
        ((s.locate (Text.lower name) place).bind (s.read (Text.lower name))).isSome = true := by
      intro place hlocate
      simp [hlocate, hread]
    cases locate_all_iff.1 hslot with
    | wordSet hwords => exact .wordSet hwords
    | sentenceSet hwords hsentences => exact .sentenceSet hwords hsentences
    | group hwords hsentences hgroups => exact .group hwords hsentences hgroups
    | field _ _ _ hname _ => simp [hplain] at hname
    | user hwords hsentences hgroups _ _ =>
      have hsame := locate_all_eq_user hplain hwords hsentences hgroups
      exact .user hwords hsentences hgroups (hfinds .user (hsame ▸ hslot))
    | vocabulary hwords hsentences hgroups _ _ _ =>
      have hsame := locate_all_eq_user hplain hwords hsentences hgroups
      exact .user hwords hsentences hgroups (hfinds .user (hsame ▸ hslot))

/-- The kind of the values in a part of the store other than the variables. -/
def partKind : Namespace → Kind
  | .group => .group
  | _ => .list

namespace Home

variable {s t : Store} {name : String} {place : Namespace}

theorem homeOf_lookup (hplain : Text.splitDotted (Text.lower name) = none)
    (h : s.Home (Text.lower name) place) :
    s.homeOf name = some place ∧
      (place ≠ .user → (s.lookup name .all).map View.kind = some (partKind place)) := by
  cases h with
  | wordSet hwords =>
    have hslot := locate_all_iff.2 (.wordSet hwords)
    obtain ⟨items, hitems⟩ := Option.isSome_iff_exists.1 hwords
    simp [homeOf_of_locate hslot, lookup_of_locate hslot, read, hitems, Slot.holds, partKind,
      View.kind]
  | sentenceSet hwords hsentences =>
    have hslot := locate_all_iff.2 (.sentenceSet hwords hsentences)
    obtain ⟨items, hitems⟩ := Option.isSome_iff_exists.1 hsentences
    simp [homeOf_of_locate hslot, lookup_of_locate hslot, read, hitems, Slot.holds, partKind,
      View.kind]
  | group hwords hsentences hgroups =>
    have hslot := locate_all_iff.2 (.group hwords hsentences hgroups)
    obtain ⟨g, hg⟩ := Option.isSome_iff_exists.1 hgroups
    simp [homeOf_of_locate hslot, lookup_of_locate hslot, read, hg, Slot.holds, partKind,
      View.kind]
  | user hwords hsentences hgroups huser =>
    have hsame := locate_all_eq_user hplain hwords hsentences hgroups
    unfold FindsUser at huser
    rw [← hsame] at huser
    refine ⟨?_, fun hne => absurd rfl hne⟩
    cases hslot : s.locate (Text.lower name) .all with
    | none => simp [hslot] at huser
    | some slot =>
      obtain ⟨view, hread⟩ := Option.isSome_iff_exists.1 (by simpa [hslot] using huser)
      have hplace : slot.holds.1 = .user := by
        rw [hsame, locate_user] at hslot
        split at hslot
        · rw [← Option.some.inj hslot]
          rfl
        · obtain ⟨folder, -, rfl⟩ := Option.map_eq_some_iff.1 hslot
          rfl
      rw [homeOf_of_locate hslot, hread]
      exact congrArg some hplace

theorem stable (h : s.Home name place) (hst : s.Stable t) : t.Home name place := by
  have hwords' := hst.words name
  have hsentences' := hst.sentences name
  cases h with
  | wordSet hwords => exact .wordSet (hwords'.trans hwords)
  | sentenceSet hwords hsentences =>
    exact .sentenceSet (hwords'.trans hwords) (hsentences'.trans hsentences)
  | group hwords hsentences hgroups =>
    exact .group (hwords'.trans hwords) (hsentences'.trans hsentences) (hst.groups name hgroups)
  | user hwords hsentences hgroups huser =>
    have huser' := hst.user name huser
    refine .user (hwords'.trans hwords) (hsentences'.trans hsentences) ?_ huser'
    -- A new group would come before the variable, but the name would then stand in two parts.
    refine Bool.eq_false_iff.2 fun hgroups' => ?_
    have hboth := hst.apart name .group .user (by simp) hgroups' huser'.lives
    exact absurd hboth.1 (by simp [Lives, hgroups])

end Home

/-- A name without a period stays where it was found, and outside the variables its value stays of
one kind. -/
theorem Stable.homeOf {s t : Store} (hst : s.Stable t) {name : String}
    (hplain : '.' ∉ name.toList) {place : Namespace} (h : s.homeOf name = some place) :
    t.homeOf name = some place ∧
      (place ≠ .user →
        (t.lookup name .all).map View.kind = (s.lookup name .all).map View.kind) := by
  have hplain' := Text.splitDotted_lower_eq_none hplain
  have hhome := home_of_homeOf hplain' h
  obtain ⟨hfound, hkind⟩ := (hhome.stable hst).homeOf_lookup hplain'
  refine ⟨hfound, fun hplace => ?_⟩
  rw [hkind hplace, (hhome.homeOf_lookup hplain').2 hplace]

end ProseScript.Store
