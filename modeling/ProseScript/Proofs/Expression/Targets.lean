import ProseScript.Proofs.Store.Access
import ProseScript.Proofs.Store.Assignment

/-!
Assignments to several targets. Main statement: the right-hand side is evaluated once, in the store
before the line, and stored under the targets from left to right; whatever the targets are, each of
those that were stored reads as the value in the end.
-/

namespace ProseScript

theorem View.Shows.kind_eq {view : View} {v : Value} (h : view.Shows v) : view.kind = v.kind := by
  unfold Shows at h
  split at h
  · rfl
  · rfl
  · rfl
  · rfl
  · exact h.elim

namespace Store

/-- A name is found, and what is found there shows a value. -/
def ReadsAs (s : Store) (name : String) (v : Value) : Prop :=
  ∃ view, s.lookup name .all = some view ∧ view.Shows v

variable {s t : Store} {name other : String} {v : Value}

/-- Only the place of groups shows a group. -/
theorem slot_of_read_group {slot : Slot} {view : View} (h : s.read name slot = some view)
    (hkind : view.kind = .group) : slot = .group := by
  cases slot with
  | group => rfl
  | user =>
    simp only [read] at h
    split at h <;> cases h <;> cases hkind
  | vocabulary folder => cases folder <;> cases h <;> cases hkind
  | _ =>
    obtain ⟨_, -, rfl⟩ := Option.map_eq_some_iff.1 h
    cases hkind

/-- A folder that holds the same under a name is felt there only through an alias, which shows a
catalog. -/
theorem lookup_of_folders {words sentences : Catalog} {slot : Slot} {view : View}
    (hwords : words.get? name = s.words.get? name)
    (hsentences : sentences.get? name = s.sentences.get? name)
    (hslot : s.locate name .all = some slot) (hview : s.read name slot = some view)
    (hkind : view.kind ≠ .catalog) :
    let t := { s with words, sentences }
    (t.locate name .all).bind (t.read name) = some view := by
  intro t
  have hinWords : t.words.contains name = s.words.contains name := congrArg Option.isSome hwords
  have hinSentences : t.sentences.contains name = s.sentences.contains name :=
    congrArg Option.isSome hsentences
  have hlocate : t.locate name .all = some slot := by
    rw [← hslot, locate_all, locate_all, hinWords, hinSentences]
    rfl
  rw [hlocate, Option.bind_some, ← hview]
  cases slot with
  | wordSet => exact congrArg (Option.map View.list) hwords
  | sentenceSet => exact congrArg (Option.map View.list) hsentences
  | vocabulary folder => cases folder <;> cases hview <;> exact absurd rfl hkind
  | _ => rfl

/-- A group put under another name is not felt by a name that shows a group. -/
theorem lookup_of_insertGroup (hne : other ≠ name) (g : Group) {slot : Slot} {view : View}
    (hslot : s.locate other .all = some slot) (hview : s.read other slot = some view)
    (hkind : view.kind = .group) :
    let t := { s with groups := s.groups.insert name g }
    (t.locate other .all).bind (t.read other) = some view := by
  intro t
  obtain rfl := slot_of_read_group hview hkind
  have hgroup : t.groups.get? other = s.groups.get? other := by
    simp [t, Table.get?_insert, hne]
  cases locate_all_iff.1 hslot with
  | group hwords hsentences hgroups =>
    have hin : t.groups.contains other = true := by
      rw [Table.contains, hgroup]
      exact hgroups
    have hfound : t.locate other .all = some .group :=
      locate_all_iff.2 (.group hwords hsentences hin)
    rw [hfound, Option.bind_some, ← hview]
    exact congrArg (Option.map View.group) hgroup

/-- The list put into a field is not felt by another name that shows a list. -/
theorem Assigned.lookup_of_field {items : List String} (h : Assigned s name (.list items) t)
    {group field : String} (hfield : s.locate name .all = some (.field group field))
    (hne : other ≠ name) {view : View}
    (hbefore : (s.locate other .all).bind (s.read other) = some view) (hkind : view.kind = .list) :
    (t.locate other .all).bind (t.read other) = some view := by
  rcases h.unchanged_or_affects hne .all with hsame | haffects
  · rw [hsame, hbefore]
  · cases haffects with
    | field hgroup _ =>
      obtain ⟨slot, shown, hslot, hshown, hshows⟩ := h.shows
      obtain rfl : Slot.group = slot := Option.some.inj (hgroup.symm.trans hslot)
      obtain ⟨g, -, rfl⟩ := Option.map_eq_some_iff.1 hshown
      cases hshows
    | owner _ hgroup _ _ =>
      obtain rfl := Option.some.inj (hbefore.symm.trans hgroup)
      cases hkind
    | wordFolder hslot _ => simp [hfield] at hslot
    | sentenceFolder hslot _ => simp [hfield] at hslot

/-- Storing a value under one name leaves another that reads as this value so. Of the names that an
assignment can affect, the fields of a group are no groups, the group of a field is no list and an
alias is a catalog. -/
theorem Assigned.lookup_other (h : Assigned s name v t) (hne : other ≠ name) {view : View}
    (hbefore : (s.locate other .all).bind (s.read other) = some view) (hshows : view.Shows v) :
    (t.locate other .all).bind (t.read other) = some view := by
  have hkind := hshows.kind_eq
  obtain ⟨slot, hslot, hview⟩ := Option.bind_eq_some_iff.1 hbefore
  cases hassigned : h with
  | @wordSet items _ =>
    have hwords : (s.words.insert name items).get? other = s.words.get? other := by
      rw [Table.get?_insert, if_neg hne]
    exact lookup_of_folders hwords rfl hslot hview (by simp [hkind, Value.kind])
  | @sentenceSet items _ =>
    have hsentences : (s.sentences.insert name items).get? other = s.sentences.get? other := by
      rw [Table.get?_insert, if_neg hne]
    exact lookup_of_folders rfl hsentences hslot hview (by simp [hkind, Value.kind])
  | group _ _ => exact lookup_of_insertGroup hne _ hslot hview hkind
  | field hfield _ _ => exact h.lookup_of_field hfield hne hbefore hkind
  | user _ _ => rw [(s.agreeOn_setVariable hne v).read_locate_eq .all, hbefore]
  | newGroup _ => exact lookup_of_insertGroup hne _ hslot hview hkind
  | newUser _ _ => rw [(s.agreeOn_insertVariable hne v).read_locate_eq .all, hbefore]

theorem readsAs_assign (h : s.assign name v = .ok t) : t.ReadsAs name v := by
  obtain ⟨slot, view, hslot, hview, hshows⟩ := (assigned_of_assign h).shows
  refine ⟨view, ?_, hshows⟩
  simp only [lookup, hslot, Option.bind_some, hview]

/-- What reads as a value still does when the value is stored under a further name. -/
theorem ReadsAs.assign (hother : s.ReadsAs other v) (h : s.assign name v = .ok t) :
    t.ReadsAs other v := by
  by_cases hsame : Text.lower other = Text.lower name
  · obtain ⟨view, hview, hshows⟩ := readsAs_assign h
    refine ⟨view, ?_, hshows⟩
    simpa only [lookup, hsame] using hview
  · obtain ⟨view, hview, hshows⟩ := hother
    exact ⟨view, (assigned_of_assign h).lookup_other hsame hview hshows, hshows⟩

/-- The store with a value under all of some names, given from left to right. -/
def storeUnder (v : Value) (names : List String) (s : Store) : Except StoreFault Store :=
  names.foldlM (fun s name => s.assign name v) s

theorem storeUnder_cons_eq_ok_iff {names : List String} :
    s.storeUnder v (name :: names) = .ok t ↔
      ∃ u, s.assign name v = .ok u ∧ u.storeUnder v names = .ok t := by
  simp only [storeUnder, List.foldlM_cons]
  cases s.assign name v with
  | error e => simp [bind, Except.bind]
  | ok u => simp [bind, Except.bind]

theorem ReadsAs.storeUnder {names : List String} (hother : s.ReadsAs other v)
    (h : s.storeUnder v names = .ok t) : t.ReadsAs other v := by
  induction names generalizing s with
  | nil => exact Except.ok.inj h ▸ hother
  | cons name rest ih =>
    obtain ⟨u, hu, hrest⟩ := storeUnder_cons_eq_ok_iff.1 h
    exact ih (hother.assign hu) hrest

/-- Each of the names reads as the value, whatever was stored after it. -/
theorem readsAs_of_storeUnder {names : List String} (h : s.storeUnder v names = .ok t) :
    ∀ name ∈ names, t.ReadsAs name v := by
  induction names generalizing s with
  | nil => simp
  | cons name rest ih =>
    obtain ⟨u, hu, hrest⟩ := storeUnder_cons_eq_ok_iff.1 h
    exact List.forall_mem_cons.2 ⟨(readsAs_assign hu).storeUnder hrest, ih hrest⟩

/-- Storing under several names goes through, or stops at the first that is refused. -/
theorem assignAll_cases (l : Line) (v : Value) (names : List String) (s : Store) :
    (∃ t, s.storeUnder v names = .ok t ∧ s.assignAll l v names = (t, none)) ∨
    ∃ before name after t e, names = before ++ name :: after ∧ s.storeUnder v before = .ok t ∧
      t.assign name v = .error e ∧ s.assignAll l v names = (t, some (e.toFault l name)) := by
  induction names generalizing s with
  | nil => exact .inl ⟨s, rfl, rfl⟩
  | cons name rest ih =>
    cases hassign : s.assign name v with
    | error e =>
      exact .inr ⟨[], name, rest, s, e, rfl, rfl, hassign, by simp only [assignAll, hassign]⟩
    | ok u =>
      have hrest : s.assignAll l v (name :: rest) = u.assignAll l v rest := by
        simp only [assignAll, hassign]
      rw [hrest]
      rcases ih u with ⟨t, hstored, hall⟩ | ⟨before, refused, after, t, e, rfl, hstored, he, hall⟩
      · exact .inl ⟨t, storeUnder_cons_eq_ok_iff.2 ⟨u, hassign, hstored⟩, hall⟩
      · exact .inr ⟨name :: before, refused, after, t, e, rfl,
          storeUnder_cons_eq_ok_iff.2 ⟨u, hassign, hstored⟩, he, hall⟩

/-- A refusal is for the kind of the value. -/
theorem toFault_of_assign {e : StoreFault} (h : s.assign name v = .error e) (l : Line) :
    ∃ expected : Kind, e.toFault l name = .typeMismatch l name expected.name v.kind.name := by
  obtain ⟨-, rfl⟩ := (s.assign_eq_error_iff name v e).1 h
  exact ⟨_, rfl⟩

end Store

namespace Expression

/-- A line with several targets. Its right-hand side is evaluated in the store before the line; if
that fails, the store stays as it is. The value is then stored under the targets from left to right,
up to the first that cannot hold it. The targets that were stored all read as the value, also where
they repeat or touch one another, and a refused one is a mismatch. -/
theorem targets_read_as_value {l : Line} {lhs rhs : String}
    (hline : splitAssignment l.params = some (lhs, rhs)) (style : Style) (s : Store) (c : Chance) :
    (∀ f c', evaluate style rhs l s c = (.error f, c') → assign style l s c = ((s, some f), c')) ∧
    ∀ v c', evaluate style rhs l s c = (.ok v, c') →
      (∃ t, assign style l s c = ((t, none), c') ∧ s.storeUnder v (Text.words lhs) = .ok t ∧
        ∀ name ∈ Text.words lhs, t.ReadsAs name v) ∨
      ∃ before name after t e, ∃ expected : Kind, Text.words lhs = before ++ name :: after ∧
        assign style l s c =
          ((t, some (.typeMismatch l name expected.name v.kind.name)), c') ∧
        s.storeUnder v before = .ok t ∧ t.assign name v = .error e ∧
        ∀ earlier ∈ before, t.ReadsAs earlier v := by
  refine ⟨fun f c' hf => assign_of_evaluate_error hline hf, ?_⟩
  intro v c' hv
  have hassign : assign style l s c = (s.assignAll l v (Text.words lhs), c') := by
    simp [assign, hline, hv]
  rw [hassign]
  rcases s.assignAll_cases l v (Text.words lhs) with
    ⟨t, hstored, hall⟩ | ⟨before, name, after, t, e, hnames, hstored, he, hall⟩
  · exact .inl ⟨t, by rw [hall], hstored, Store.readsAs_of_storeUnder hstored⟩
  · obtain ⟨expected, hfault⟩ := Store.toFault_of_assign he l
    exact .inr ⟨before, name, after, t, e, expected, hnames, by rw [hall, hfault], hstored, he,
      Store.readsAs_of_storeUnder hstored⟩

/-- A word set that stands on both sides, a field of an active member twice and a new name. -/
theorem targets_read_as_value_mood :
    let s := (Store.ofFolders ⟨[("noun", ["cat"])]⟩ .empty).setGroup "hero"
      (.ofMembers [⟨[("mood", ["calm"])]⟩])
    let l := Line.ofText 1 "ASSIGNLIST Noun hero.mood HERO.Mood pets = noun + \"owl\""
    splitAssignment l.params = some ("Noun hero.mood HERO.Mood pets", "noun + \"owl\"") ∧
    ∃ t c, assign .list l s c = ((t, none), c) ∧
      ∀ name ∈ ["Noun", "hero.mood", "HERO.Mood", "pets"], t.ReadsAs name (.list ["cat", "owl"]) := by
  intro s l
  let c : Chance := ⟨fun _ => 0, 0⟩
  have hline : splitAssignment l.params =
      some ("Noun hero.mood HERO.Mood pets", "noun + \"owl\"") := by decide +kernel
  have hwords : Text.words "Noun hero.mood HERO.Mood pets" =
      ["Noun", "hero.mood", "HERO.Mood", "pets"] := by decide +kernel
  have hnone : selection? "noun + \"owl\"" = none := by decide +kernel
  have hsum : listSum "noun + \"owl\"" l s = .ok ["cat", "owl"] := by decide +kernel
  have hvalue : evaluate .list "noun + \"owl\"" l s c = (.ok (.list ["cat", "owl"]), c) := by
    rw [evaluate_of_not_selection (fun _ => hnone), evaluateFixed, hsum]
    rfl
  have hstored : (assign .list l s c).1.2 = none := by decide +kernel
  rcases (targets_read_as_value hline .list s c).2 _ _ hvalue with
    ⟨t, hassign, -, hreads⟩ | ⟨before, name, after, t, e, expected, -, hassign, -⟩
  · exact ⟨hline, t, c, hassign, hwords ▸ hreads⟩
  · simp [hassign] at hstored

end Expression

end ProseScript
