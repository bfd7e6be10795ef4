import ProseScript.Expression
import ProseScript.Proofs.Store.Locate

/-!
The contract of assignments. Main statement: an assignment is refused exactly when the place of its
name cannot hold the value, and then nothing changes; otherwise the name reads as the value, and
other names read as before but for the fields of an assigned group, the group of an assigned field
and the aliases of an assigned folder.
-/

namespace ProseScript

/-- What a look-up shows of a stored value: of a group, its members. -/
def View.Shows : View → Value → Prop
  | .list items, .list stored => items = stored
  | .catalog entries, .catalog stored => entries = stored
  | .group g, .group members => g.members = members
  | .snippet body, .snippet stored => body = stored
  | _, _ => False

/-- The second group differs from the first at most in one field of the active member. -/
structure Group.ChangedIn (field : String) (g h : Group) : Prop where
  pointer : h.pointer = g.pointer
  members : ∃ i e e', g.pointer = some i ∧ g.members[i]? = some e ∧ h.members = g.members.set i e' ∧
    ∀ other ≠ field, e'.get? other = e.get? other

theorem Group.changedIn_setActive {g h : Group} {field : String} {items : List String}
    (hset : g.setActive field items = some h) : g.ChangedIn field h := by
  obtain ⟨i, e, hi, he, rfl⟩ := setActive_eq_some_iff.1 hset
  exact ⟨rfl, i, e, e.set field items, hi, he, rfl, fun _ hne => e.get?_set_of_ne items hne⟩

namespace Store

/-- Two stores hold the same under a lower-case name, in all their parts. -/
structure AgreeOn (s t : Store) (name : String) : Prop where
  words : t.words.get? name = s.words.get? name
  sentences : t.sentences.get? name = s.sentences.get? name
  groups : t.groups.get? name = s.groups.get? name
  fields : ∀ group field, Text.splitDotted name = some (group, field) →
    t.field? group field = s.field? group field
  userVars : t.userVars.get? name = s.userVars.get? name
  aliases : t.aliases.get? name = s.aliases.get? name
  snippets : t.snippets.get? name = s.snippets.get? name
  -- An alias reads a whole folder, whatever its own name.
  folders : ∀ folder, s.aliases.get? name = some folder →
    t.read name (.vocabulary folder) = s.read name (.vocabulary folder)

namespace AgreeOn

variable {s t : Store} {name : String} (h : s.AgreeOn t name)
include h

theorem fieldSlot?_eq : t.fieldSlot? name = s.fieldSlot? name := by
  cases hname : Text.splitDotted name with
  | none => rw [t.fieldSlot?_of_plain hname, s.fieldSlot?_of_plain hname]
  | some parts =>
    obtain ⟨group, field⟩ := parts
    rw [t.fieldSlot?_of_dotted hname, s.fieldSlot?_of_dotted hname, h.fields group field hname]

theorem locate_eq (place : Namespace) : t.locate name place = s.locate name place := by
  have hwords : t.words.contains name = s.words.contains name := congrArg Option.isSome h.words
  have hsentences : t.sentences.contains name = s.sentences.contains name :=
    congrArg Option.isSome h.sentences
  have hgroups : t.groups.contains name = s.groups.contains name := congrArg Option.isSome h.groups
  have huser : t.userVars.contains name = s.userVars.contains name :=
    congrArg Option.isSome h.userVars
  have hsnippets : t.snippets.contains name = s.snippets.contains name :=
    congrArg Option.isSome h.snippets
  unfold locate
  rw [hwords, hsentences, hgroups, huser, hsnippets, h.aliases, h.fieldSlot?_eq]

theorem read_eq {place : Namespace} {slot : Slot} (hslot : s.locate name place = some slot) :
    t.read name slot = s.read name slot := by
  cases slot with
  | wordSet => rw [read, read, h.words]
  | sentenceSet => rw [read, read, h.sentences]
  | group => rw [read, read, h.groups]
  | field group field =>
    have hfield := h.fields group field (dotted_of_locate hslot)
    exact congrArg (Option.map View.list) hfield
  | user => rw [read, read, h.userVars]
  | vocabulary folder => exact h.folders folder (found_of_locate hslot)
  | snippet => rw [read, read, h.snippets]

theorem read_locate_eq (place : Namespace) :
    (t.locate name place).bind (t.read name) = (s.locate name place).bind (s.read name) := by
  rw [h.locate_eq place]
  cases hslot : s.locate name place with
  | none => rfl
  | some slot => exact h.read_eq hslot

end AgreeOn

/-- How an assignment under one name may change what another name reads as. -/
inductive Affects (s t : Store) (name other : String) (before after : Option View) : Prop
  | field {field : String} (hgroup : t.locate name .all = some .group)
      (hother : Text.splitDotted other = some (name, field)) : Affects s t name other before after
  | owner {field : String} {g g' : Group} (hslot : s.locate name .all = some (.field other field))
      (hbefore : before = some (.group g)) (hafter : after = some (.group g'))
      (hchanged : g.ChangedIn field g') : Affects s t name other before after
  | wordFolder (hslot : s.locate name .all = some .wordSet)
      (hother : s.aliases.get? other = some .words) : Affects s t name other before after
  | sentenceFolder (hslot : s.locate name .all = some .sentenceSet)
      (hother : s.aliases.get? other = some .sentences) : Affects s t name other before after

section Frames

variable (s : Store) {name other : String} (hne : other ≠ name)
include hne

theorem agreeOn_insertWords (items : List String) (halias : s.aliases.get? other ≠ some .words) :
    s.AgreeOn { s with words := s.words.insert name items } other where
  words := by rw [Table.get?_insert, if_neg hne]
  sentences := rfl
  groups := rfl
  fields _ _ _ := rfl
  userVars := rfl
  aliases := rfl
  snippets := rfl
  folders folder hfolder := by
    cases folder with
    | words => exact absurd hfolder halias
    | sentences => rfl

theorem agreeOn_insertSentences (items : List String)
    (halias : s.aliases.get? other ≠ some .sentences) :
    s.AgreeOn { s with sentences := s.sentences.insert name items } other where
  words := rfl
  sentences := by rw [Table.get?_insert, if_neg hne]
  groups := rfl
  fields _ _ _ := rfl
  userVars := rfl
  aliases := rfl
  snippets := rfl
  folders folder hfolder := by
    cases folder with
    | words => rfl
    | sentences => exact absurd hfolder halias

theorem agreeOn_insertGroup {g : Group}
    (hfields : ∀ group field, Text.splitDotted other = some (group, field) →
      field? { s with groups := s.groups.insert name g } group field = s.field? group field) :
    s.AgreeOn { s with groups := s.groups.insert name g } other where
  words := rfl
  sentences := rfl
  groups := by rw [Table.get?_insert, if_neg hne]
  fields := hfields
  userVars := rfl
  aliases := rfl
  snippets := rfl
  folders folder _ := by cases folder <;> rfl

theorem agreeOn_insertVariable (v : Value) :
    s.AgreeOn { s with userVars := s.userVars.insert name v } other where
  words := rfl
  sentences := rfl
  groups := rfl
  fields _ _ _ := rfl
  userVars := by rw [Table.get?_insert, if_neg hne]
  aliases := rfl
  snippets := rfl
  folders folder _ := by cases folder <;> rfl

theorem agreeOn_setVariable (v : Value) : s.AgreeOn (s.setVariable name v) other where
  words := rfl
  sentences := rfl
  groups := rfl
  fields _ _ _ := rfl
  userVars := by rw [setVariable, Table.get?_insert, if_neg hne]
  aliases := s.aliases.get?_erase_of_ne hne
  snippets := rfl
  folders folder _ := by cases folder <;> rfl

end Frames

theorem field?_insertGroup_of_ne (s : Store) {name group : String} (hne : group ≠ name) (g : Group)
    (field : String) :
    field? { s with groups := s.groups.insert name g } group field = s.field? group field := by
  simp only [field?, Table.get?_insert, if_neg hne]

theorem field?_setActive (s : Store) {group field : String} {g g' : Group} {items : List String}
    (hset : g.setActive field items = some g') :
    field? { s with groups := s.groups.insert group g' } group field = some items := by
  obtain ⟨e, -, hactive⟩ := Group.active?_setActive hset
  simp [field?, hactive, Entity.get?_set_self]

theorem field?_setActive_of_ne (s : Store) {group field other : String} {g g' : Group}
    {items : List String} (hg : s.groups.get? group = some g)
    (hset : g.setActive field items = some g') (hne : other ≠ field) :
    field? { s with groups := s.groups.insert group g' } group other = s.field? group other := by
  obtain ⟨e, hold, hnew⟩ := Group.active?_setActive hset
  simp [field?, hg, hold, hnew, e.get?_set_of_ne items hne]

/-- A group that stands under a plain name is found where it was found before. -/
theorem locate_insertGroup (s : Store) {name : String} (hplain : Text.splitDotted name = none)
    (hin : s.groups.contains name = true) (g : Group) (place : Namespace) :
    locate { s with groups := s.groups.insert name g } name place = s.locate name place := by
  have hcontains : (s.groups.insert name g).contains name = s.groups.contains name := by
    rw [hin, Table.contains_insert_self]
  unfold locate
  rw [hcontains, fieldSlot?_of_plain _ hplain, fieldSlot?_of_plain _ hplain]

theorem locate_newGroup (s : Store) {name : String} (hwords : s.words.contains name = false)
    (hsentences : s.sentences.contains name = false) (g : Group) :
    locate { s with groups := s.groups.insert name g } name .all = some .group :=
  locate_all_iff.2 (.group hwords hsentences (Table.contains_insert_self _ _ _))

namespace Assigned

variable {s t : Store} {name : String} {v : Value}

theorem shows_of_user (hwords : t.words.contains name = false)
    (hsentences : t.sentences.contains name = false) (hgroups : t.groups.contains name = false)
    (hfield : t.fieldSlot? name = none) (hv : t.userVars.get? name = some v)
    (hkind : v.kind = .list ∨ v.kind = .catalog) :
    ∃ slot view, t.locate name .all = some slot ∧ t.read name slot = some view ∧ view.Shows v := by
  have huser : t.userVars.contains name = true := by simp [Table.contains, hv]
  have hfound := locate_all_iff.2 (.user hwords hsentences hgroups hfield huser)
  cases v with
  | list items => exact ⟨.user, .list items, hfound, by simp [read, hv], rfl⟩
  | catalog entries => exact ⟨.user, .catalog entries, hfound, by simp [read, hv], rfl⟩
  | group members => simp [Value.kind] at hkind
  | snippet body => simp [Value.kind] at hkind

/-- The name of an assignment is found and shows the value. -/
theorem shows (h : Assigned s name v t) :
    ∃ slot view, t.locate name .all = some slot ∧ t.read name slot = some view ∧ view.Shows v := by
  -- Nothing that is searched before the place of the name has changed.
  cases h with
  | @wordSet items _ =>
    have hfound : Search { s with words := s.words.insert name items } name (some .wordSet) :=
      .wordSet (Table.contains_insert_self _ _ _)
    exact ⟨.wordSet, .list items, locate_all_iff.2 hfound, by simp [read], rfl⟩
  | @sentenceSet items hslot =>
    cases locate_all_iff.1 hslot with
    | sentenceSet hwords _ =>
      have hfound : Search { s with sentences := s.sentences.insert name items } name
          (some .sentenceSet) := .sentenceSet hwords (Table.contains_insert_self _ _ _)
      exact ⟨.sentenceSet, .list items, locate_all_iff.2 hfound, by simp [read], rfl⟩
  | @group members g hslot _ =>
    cases locate_all_iff.1 hslot with
    | group hwords hsentences _ =>
      have hfound := s.locate_newGroup hwords hsentences (g.replaceMembers members)
      exact ⟨.group, .group (g.replaceMembers members), hfound, by simp [read], rfl⟩
  | @field group field items g g' hslot hg hset =>
    cases locate_all_iff.1 hslot with
    | field hwords hsentences hgroups hname _ =>
      have hvalue : field? { s with groups := s.groups.insert group g' } group field = some items :=
        s.field?_setActive hset
      have hfound : Search { s with groups := s.groups.insert group g' } name
          (some (.field group field)) := by
        refine .field hwords hsentences ?_ hname (by rw [hvalue]; rfl)
        exact (s.groups.contains_insert_of_ne (Text.splitDotted_front hname).2 g').trans hgroups
      refine ⟨.field group field, .list items, locate_all_iff.2 hfound, ?_, rfl⟩
      exact congrArg (Option.map View.list) hvalue
  | user hslot hkind =>
    have hv : (s.setVariable name v).userVars.get? name = some v := Table.get?_insert_self _ _ _
    rcases hslot with hslot | ⟨folder, hslot⟩
    · cases locate_all_iff.1 hslot with
      | user hwords hsentences hgroups hfield _ =>
        exact shows_of_user hwords hsentences hgroups hfield hv hkind
    · cases locate_all_iff.1 hslot with
      | vocabulary hwords hsentences hgroups hfield _ _ =>
        exact shows_of_user hwords hsentences hgroups hfield hv hkind
  | @newGroup members hnone =>
    cases locate_all_iff.1 hnone with
    | nowhere hwords hsentences _ _ _ _ =>
      have hfound := s.locate_newGroup hwords hsentences (.ofMembers members)
      exact ⟨.group, .group (.ofMembers members), hfound, by simp [read], rfl⟩
  | newUser hnone hkind =>
    cases locate_all_iff.1 hnone with
    | nowhere hwords hsentences hgroups hfield _ _ =>
      exact shows_of_user hwords hsentences hgroups hfield (Table.get?_insert_self _ _ _) hkind

/-- The group of an assigned field is found as before, and only the field has changed. -/
theorem unchanged_or_owner {group field : String} {g g' : Group} {items : List String}
    (hslot : s.locate name .all = some (.field group field)) (hg : s.groups.get? group = some g)
    (hset : g.setActive field items = some g') (place : Namespace) :
    let t := { s with groups := s.groups.insert group g' }
    (t.locate group place).bind (t.read group) = (s.locate group place).bind (s.read group) ∨
      Affects s t name group ((s.locate group place).bind (s.read group))
        ((t.locate group place).bind (t.read group)) := by
  intro t
  have hplain := (Text.splitDotted_front (dotted_of_locate hslot)).1
  have hlocate : t.locate group place = s.locate group place :=
    s.locate_insertGroup hplain (by simp [Table.contains, hg]) g' place
  rw [hlocate]
  cases hplace : s.locate group place with
  | none => exact .inl rfl
  | some slot =>
    cases slot with
    | group =>
      have hbefore : s.read group .group = some (.group g) := by simp [read, hg]
      have hafter : t.read group .group = some (.group g') := by simp [read, t]
      exact .inr (.owner hslot hbefore hafter (Group.changedIn_setActive hset))
    | field front back =>
      have hdotted := dotted_of_locate hplace
      simp [hplain] at hdotted
    | vocabulary folder => cases folder <;> exact .inl rfl
    | _ => exact .inl rfl

/-- A group put under a name can be felt only by the dotted names that begin with it. -/
theorem unchanged_or_field {other : String} (hne : other ≠ name) {g : Group}
    (hfound : locate { s with groups := s.groups.insert name g } name .all = some .group)
    (place : Namespace) :
    let t := { s with groups := s.groups.insert name g }
    (t.locate other place).bind (t.read other) = (s.locate other place).bind (s.read other) ∨
      Affects s t name other ((s.locate other place).bind (s.read other))
        ((t.locate other place).bind (t.read other)) := by
  intro t
  by_cases hdotted : ∃ field, Text.splitDotted other = some (name, field)
  · obtain ⟨field, hother⟩ := hdotted
    exact .inr (.field hfound hother)
  · refine .inl ((s.agreeOn_insertGroup hne ?_).read_locate_eq place)
    intro front field hother
    have hfront : front ≠ name := fun heq => hdotted ⟨field, heq ▸ hother⟩
    exact s.field?_insertGroup_of_ne hfront g field

/-- Another name reads as before, unless it is a field of the assigned group, the group of the
assigned field or an alias of the assigned folder. -/
theorem unchanged_or_affects (h : Assigned s name v t) {other : String} (hne : other ≠ name)
    (place : Namespace) :
    (t.locate other place).bind (t.read other) = (s.locate other place).bind (s.read other) ∨
      Affects s t name other ((s.locate other place).bind (s.read other))
        ((t.locate other place).bind (t.read other)) := by
  cases h with
  | @wordSet items hslot =>
    by_cases halias : s.aliases.get? other = some .words
    · exact .inr (.wordFolder hslot halias)
    · exact .inl ((s.agreeOn_insertWords hne items halias).read_locate_eq place)
  | @sentenceSet items hslot =>
    by_cases halias : s.aliases.get? other = some .sentences
    · exact .inr (.sentenceFolder hslot halias)
    · exact .inl ((s.agreeOn_insertSentences hne items halias).read_locate_eq place)
  | @group members g hslot _ =>
    cases locate_all_iff.1 hslot with
    | group hwords hsentences _ =>
      exact unchanged_or_field hne (s.locate_newGroup hwords hsentences _) place
  | @field group field items g g' hslot hg hset =>
    by_cases howner : other = group
    · subst howner
      exact unchanged_or_owner hslot hg hset place
    · refine .inl ((s.agreeOn_insertGroup howner ?_).read_locate_eq place)
      intro front back hother
      by_cases hfront : front = group
      · subst hfront
        have hback : back ≠ field := by
          rintro rfl
          exact hne (Text.splitDotted_inj hother (dotted_of_locate hslot))
        exact s.field?_setActive_of_ne hg hset hback
      · exact s.field?_insertGroup_of_ne hfront g' back
  | user _ _ => exact .inl ((s.agreeOn_setVariable hne v).read_locate_eq place)
  | newGroup hnone =>
    cases locate_all_iff.1 hnone with
    | nowhere hwords hsentences _ _ _ _ =>
      exact unchanged_or_field hne (s.locate_newGroup hwords hsentences _) place
  | newUser _ _ => exact .inl ((s.agreeOn_insertVariable hne v).read_locate_eq place)

end Assigned

/-- The contract of assignments. They are refused exactly when the place of the name cannot hold the
value, always for the kind of the value, and then the store stays as it is. Otherwise the name shows
the value, snippets are the same, and every other name reads as before in every part of the store,
but for the names that such an assignment affects. -/
theorem assign_contract (s : Store) (name : String) (v : Value) :
    ((∃ e, s.assign name v = .error e) ↔ Refuses (s.locate (Text.lower name) .all) v.kind) ∧
    (∀ e, s.assign name v = .error e → (∃ place expected, e = .mismatch place expected v.kind) ∧
      ∀ l, s.assignAll l v [name] = (s, some (e.toFault l name))) ∧
    ∀ t, s.assign name v = .ok t →
      (∃ view, t.lookup name .all = some view ∧ view.Shows v) ∧ t.snippets = s.snippets ∧
      ∀ other place, Text.lower other ≠ Text.lower name →
        t.lookup other place = s.lookup other place ∨
        Affects s t (Text.lower name) (Text.lower other) (s.lookup other place)
          (t.lookup other place) := by
  refine ⟨⟨?_, ?_⟩, ?_, ?_⟩
  · rintro ⟨e, he⟩
    exact ((s.assign_eq_error_iff name v e).1 he).1
  · intro hrefused
    exact ⟨_, (s.assign_eq_error_iff name v _).2 ⟨hrefused, rfl⟩⟩
  · intro e he
    refine ⟨⟨_, _, ((s.assign_eq_error_iff name v e).1 he).2⟩, ?_⟩
    intro l
    simp only [assignAll, he]
  · intro t ht
    have hassigned := assigned_of_assign ht
    obtain ⟨slot, view, hslot, hview, hshows⟩ := hassigned.shows
    refine ⟨⟨view, ?_, hshows⟩, hassigned.snippets_eq, ?_⟩
    · simp only [lookup, hslot, Option.bind_some, hview]
    · intro other place hne
      exact hassigned.unchanged_or_affects hne place

/-- A word set and a group whose active member is calm. -/
def heroStore : Store :=
  (ofFolders (.ofEntries [("noun", ["cat"])]) (.ofEntries [])).setGroup "hero"
    (.ofMembers [⟨[("mood", ["calm"])]⟩])

theorem assign_contract_hero :
    (∃ e, heroStore.assign "Noun" (.catalog .empty) = .error e ∧
      ∃ place expected, e = .mismatch place expected .catalog) ∧
    ∃ t, heroStore.assign "Hero.Mood" (.list ["bright"]) = .ok t ∧
      (∃ view, t.lookup "Hero.Mood" .all = some view ∧ view.Shows (.list ["bright"])) ∧
      (t.lookup "hero" .all = heroStore.lookup "hero" .all ∨
        Affects heroStore t "hero.mood" "hero" (heroStore.lookup "hero" .all)
          (t.lookup "hero" .all)) := by
  have hplace : heroStore.locate (Text.lower "Noun") .all = some .wordSet := by decide +kernel
  have hrefuses : Refuses (heroStore.locate (Text.lower "Noun") .all) .catalog := by
    rw [hplace]
    simp [Refuses]
  have hok : (heroStore.assign "Hero.Mood" (.list ["bright"])).toOption.isSome = true := by
    decide +kernel
  have hname : Text.lower "Hero.Mood" = "hero.mood" := by decide +kernel
  have hother : Text.lower "hero" = "hero" := by decide +kernel
  constructor
  · obtain ⟨herror, hmismatch, -⟩ := heroStore.assign_contract "Noun" (.catalog .empty)
    obtain ⟨e, he⟩ := herror.2 hrefuses
    exact ⟨e, he, (hmismatch e he).1⟩
  · obtain ⟨-, -, hassign⟩ := heroStore.assign_contract "Hero.Mood" (.list ["bright"])
    cases ht : heroStore.assign "Hero.Mood" (.list ["bright"]) with
    | error e => simp [ht, Except.toOption] at hok
    | ok t =>
      obtain ⟨hshows, -, hothers⟩ := hassign t ht
      have hhero := hothers "hero" .all (by rw [hname, hother]; decide)
      rw [hname, hother] at hhero
      exact ⟨t, rfl, hshows, hhero⟩

end Store

end ProseScript
