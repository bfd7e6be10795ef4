import ProseScript.Proofs.Run.Names
import ProseScript.Proofs.Run.Snippets
import ProseScript.Proofs.Run.StoreInvariant
import ProseScript.Proofs.Store.Additions

/-!
Dotted names during a run. Main statement: a name with a period comes into the store only where a
line of the program assigns to it, so that without such lines groups have plain names and a dotted
name means a field of an active member.
-/

namespace ProseScript.Run

open Node (Occurs)
open Store (Adds)

/-- A line that is run as a command assigns to the lower-case name. -/
def Assigns (c : Command) (l : Line) (name : String) : Prop :=
  Command.ofLine? l = some c ∧ ((Style.ofCommand? c).isSome = true ∨ c = .recite) ∧
    ∃ lhs rhs word, splitAssignment l.params = some (lhs, rhs) ∧ word ∈ Text.words lhs ∧
      Text.lower word = name

section Commands

variable {l : Line} {s t : State}

/-- Replacing a group that is there adds nothing. -/
theorem adds_setGroup {G V : String → Prop} {s : Store} {name : String} {g : Group}
    (hg : s.group? name = some g) (g' : Group) : Adds G V s (s.setGroup name g') :=
  .insertGroup s g' (.inl (Option.isSome_iff_exists.2 ⟨g, hg⟩))

theorem selectedKind_of_command {c : Command} {style : Style} (h : Style.ofCommand? c = some style) :
    Expression.selectedKind style = .group ↔ c = .assignGen := by
  cases c <;> simp [Style.ofCommand?] at h <;> subst h <;> simp [Expression.selectedKind]

theorem adds_simple {c : Command} (hl : Command.ofLine? l = some c) (h : simple c l s = .ok t) :
    Adds (fun k => Assigns .assignGen l k) (fun k => ∃ c, c ≠ .assignGen ∧ Assigns c l k)
      s.store t.store := by
  unfold simple at h
  split at h
  · next style hstyle =>
    have hsome : (Style.ofCommand? c).isSome = true := by simp [hstyle]
    obtain ⟨lhs, rhs, v, chance, hsides, hv, hassign⟩ := parts_of_assign h
    have hkind := Expression.kind_evaluate hv
    refine (Store.adds_assignAll hassign).mono ?_ ?_
    · rintro k ⟨hgroup, word, hword, hk⟩
      obtain rfl := (selectedKind_of_command hstyle).1 (hkind.symm.trans hgroup)
      exact ⟨hl, .inl hsome, lhs, rhs, word, hsides, hword, hk⟩
    · rintro k ⟨hother, word, hword, hk⟩
      refine ⟨c, ?_, hl, .inl hsome, lhs, rhs, word, hsides, hword, hk⟩
      intro hc
      exact hother (hkind.trans ((selectedKind_of_command hstyle).2 hc))
  cases c with
  | display => rw [frame_display h]; exact .refl s.store
  | format => rw [frame_setFormat h]; exact .refl s.store
  | newLine => rw [frame_writeFixed h]; exact .refl s.store
  | newPara => rw [frame_writeFixed h]; exact .refl s.store
  | newChapter => rw [frame_newChapter h]; exact .refl s.store
  | refGender => rw [frame_refGender h]; exact .refl s.store
  | recite =>
    obtain ⟨_, _, item, lhs, rhs, hsides, hassign, -⟩ := parts_of_recite h
    refine (Store.adds_assignAll hassign).mono ?_ ?_
    · rintro k ⟨hgroup, -⟩
      simp [Value.kind] at hgroup
    · rintro k ⟨-, word, hword, hk⟩
      exact ⟨.recite, by simp, hl, .inr rfl, lhs, rhs, word, hsides, hword, hk⟩
  | shift =>
    rcases store_of_shift h with hsame | ⟨name, g, g', offset, hg, -, ht⟩
    · rw [hsame]
      exact .refl s.store
    · rw [ht]
      exact adds_setGroup hg g'
  | shuffle =>
    obtain ⟨name, g, hg, ht⟩ := store_of_shuffle h
    rw [ht]
    exact adds_setGroup hg _
  | _ => simp at h

theorem adds_generate {body : List Node} (h : generate l body s = .ok t) :
    Adds (fun k => Text.lower k = k ∧ '.' ∉ k.toList) (fun _ => False) s.store t.store := by
  obtain ⟨name, members, u, hplain, -, hstore, -⟩ := frame_generate h
  have hlower : '.' ∉ (Text.lower name).toList := by
    rw [Text.toList_lower]
    exact fun hdot => hplain (Text.dot_mem_of_lowerAfter hdot)
  obtain ⟨assigned, hassign, hlast⟩ := cases_of_storeGroup hstore
  have hadds : Adds (fun k => Text.lower k = k ∧ '.' ∉ k.toList) (fun _ => False) s.store assigned := by
    refine (Store.assigned_of_assign hassign).adds.mono ?_ ?_
    · rintro k ⟨-, rfl⟩
      exact ⟨Text.lower_lower name, hlower⟩
    · rintro k ⟨hkind, -⟩
      exact hkind rfl
  rcases hlast with ht | ⟨old, g, hold, -, ht⟩
  · rw [ht]
    exact hadds
  · rw [ht]
    exact hadds.trans (adds_setGroup hold g)

end Commands

/-- A name under which the program may store a group: a plain one, or one that an `ASSIGNGEN` line
assigns to. -/
def MayGroup (p : Program) (name : String) : Prop :=
  Text.lower name = name ∧
    ('.' ∉ name.toList ∨ ∃ l, Occurs (.line l) p ∧ Assigns .assignGen l name)

/-- A name that a line of the program assigns to, other than by `ASSIGNGEN`. -/
def MayVary (p : Program) (name : String) : Prop :=
  ∃ l c, c ≠ .assignGen ∧ Occurs (.line l) p ∧ Assigns c l name

/-- The state of a run that began in `first`: its snippets come from the program, and its new names
from the lines of the program. -/
structure Named (p : Program) (first : Store) (s : State) : Prop where
  supplied : Supplied p s
  adds : Adds (MayGroup p) (MayVary p) first s.store

namespace Named

variable {p : Program} {first : Store} {s t : State}

theorem initial (p : Program) (u : Setup) (c : Chance) : Named p u.store (u.initial c) :=
  ⟨.initial p u c, .refl _⟩

theorem step (hs : Named p first s) (ht : Supplied p t)
    (hst : Adds (MayGroup p) (MayVary p) s.store t.store) : Named p first t :=
  ⟨ht, hs.adds.trans hst⟩

theorem invariant (p : Program) (first : Store) :
    Invariant (fun n => Occurs n p) (Named p first) where
  begun s l hs := hs.step ((Supplied.invariant p).begun s l hs.supplied) (.refl _)
  drawn s chance hs := hs.step ((Supplied.invariant p).drawn s chance hs.supplied) (.refl _)
  simple c l s t hl hcommand hsafe h hs := by
    refine hs.step ((Supplied.invariant p).simple c l s t hl hcommand hsafe h hs.supplied) ?_
    refine (adds_simple hcommand h).mono ?_ ?_
    · rintro k ⟨hline, hstyle, lhs, rhs, word, hsides, hword, rfl⟩
      exact ⟨Text.lower_lower word, .inr ⟨l, hl, hline, hstyle, lhs, rhs, word, hsides, hword, rfl⟩⟩
    · rintro k ⟨c, hc, hk⟩
      exact ⟨l, c, hc, hl, hk⟩
  write limit l s t hl hcommand h hs := by
    refine hs.step ((Supplied.invariant p).write limit l s t hl hcommand h hs.supplied) ?_
    rw [frame_write h]
    exact .refl _
  generate opener body closer s t hblock h hs := by
    refine hs.step ((Supplied.invariant p).generate opener body closer s t hblock h hs.supplied) ?_
    refine (adds_generate h).mono ?_ ?_
    · rintro k ⟨hlower, hplain⟩
      exact ⟨hlower, .inl hplain⟩
    · rintro k ⟨⟩
  snippet opener body closer s t hblock h hs := by
    refine hs.step ((Supplied.invariant p).snippet opener body closer s t hblock h hs.supplied) ?_
    obtain ⟨word, -, rfl⟩ := storeSnippet_eq_ok_iff.1 h
    exact ⟨fun _ => .inl, fun _ => .inl⟩
  loopBody := (Supplied.invariant p).loopBody
  calledBody l s body h hs := (Supplied.invariant p).calledBody l s body h hs.supplied

end Named

theorem adds_of_reaches {limit : Nat} {u : Setup} {p : Program} {c : Chance} {t : State}
    (h : Reaches limit p (u.initial c) t) : Adds (MayGroup p) (MayVary p) u.store t.store :=
  ((Named.invariant p u.store).reaches (fun _ hn => .here hn) h (.initial p u c)).adds

section Address

variable {l : Line} {s : State} {word name : String} (hl : l.paramWords = [word])
  (hname : Text.lower word = name)
include hl hname

/-- A `SHIFT` line takes the name of a stored group if it has no period. -/
theorem shift_takes_iff (hgroup : (s.store.group? name).isSome = true) :
    (∃ t, shift l s = .ok t) ↔ '.' ∉ name.toList := by
  obtain ⟨g, hg⟩ := Option.isSome_iff_exists.1 hgroup
  by_cases hdot : '.' ∈ name.toList
  · simp [shift, hl, hname, shiftGroup, hdot]
  · cases hshift : g.shift 1 <;> simp [shift, hl, hname, shiftGroup, hdot, hg, hshift]

theorem shuffle_takes_iff (hgroup : (s.store.group? name).isSome = true) :
    (∃ t, shuffle l s = .ok t) ↔ '.' ∉ name.toList := by
  obtain ⟨g, hg⟩ := Option.isSome_iff_exists.1 hgroup
  by_cases hdot : '.' ∈ name.toList
  · simp [shuffle, hl, hname, hdot]
  · simp [shuffle, hl, hname, hdot, hg]

theorem generate_takes_iff (hgroup : s.store.locate name .all = some .group) :
    (∃ t, generate l [] s = .ok t) ↔ '.' ∉ name.toList := by
  constructor
  · rintro ⟨t, h⟩ hdot
    simp [generate, hl, hname, hdot] at h
  · intro hplain
    have hlower : Text.lower name = name := hname ▸ Text.lower_lower word
    have hfits (members : List Entity) (e : StoreFault) :
        s.store.assign name (.group members) ≠ .error e := by
      rw [Ne, Store.assign_eq_error_iff, hlower, hgroup]
      simp [Store.Refuses, Value.kind]
    obtain ⟨store, hstore⟩ : ∃ store, storeGroup l name [.blank] s.store = .ok store := by
      cases h : storeGroup l name [.blank] s.store with
      | ok store => exact ⟨store, rfl⟩
      | error f =>
        unfold storeGroup at h
        split at h
        · next e he => exact absurd he (hfits _ e)
        · split at h <;> simp at h
    have hwarned (b : Bool) (w : Warning) : (if b then s.warn w else s).store = s.store := by
      cases b <;> rfl
    simp [generate, hl, hname, hplain, memberCount, newMembers, fillFields, bind, Except.bind, pure,
      Except.pure, hwarned, hstore]

end Address

section Reached

variable {limit : Nat} {u : Setup} {p : Program} {c : Chance} {t : State} {name : String}
  (h : Reaches limit p (u.initial c) t)
include h

/-- The group is found first, as no word or sentence set has its name. -/
theorem locate_of_group (hname : t.store.groups.contains name = true) :
    t.store.locate name .all = some .group := by
  have happart := (carried_stable.reaches h).apart name
  have hempty : ¬ (u.initial c).store.Lives name .group := by
    simp [Store.Lives, Setup.initial, Setup.store, Store.setAlias, Store.ofFolders, Table.contains]
  have hwords : ¬ t.store.Lives name .wordSet := fun hw =>
    hempty (happart .wordSet .group (by simp) hw hname).2
  have hsentences : ¬ t.store.Lives name .sentenceSet := fun hs =>
    hempty (happart .sentenceSet .group (by simp) hs hname).2
  exact Store.locate_all_iff.2 (.group (by simpa [Store.Lives] using hwords)
    (by simpa [Store.Lives] using hsentences) hname)

theorem mayGroup_of_group (hname : t.store.groups.contains name = true) : MayGroup p name := by
  rcases (adds_of_reaches h).groups name hname with hfirst | hmay
  · simp [Store.Lives, Setup.store, Store.setAlias, Store.ofFolders, Table.contains] at hfirst
  · exact hmay

end Reached

/-- A group is stored under a dotted name only if an `ASSIGNGEN` line of the program assigns to the
name. `SHIFT`, `SHUFFLE` and `GEN` take the names of all stored groups but the dotted ones. -/
theorem dotted_groups_are_assigned {limit : Nat} {u : Setup} {p : Program} {c : Chance} {t : State}
    (h : Reaches limit p (u.initial c) t) {name : String}
    (hname : t.store.groups.contains name = true) :
    Text.lower name = name ∧
    ('.' ∈ name.toList → ∃ l, Occurs (.line l) p ∧ Assigns .assignGen l name) ∧
    ∀ l word, l.paramWords = [word] → Text.lower word = name →
      ((∃ t', shift l t = .ok t') ↔ '.' ∉ name.toList) ∧
      ((∃ t', shuffle l t = .ok t') ↔ '.' ∉ name.toList) ∧
      ((∃ t', generate l [] t = .ok t') ↔ '.' ∉ name.toList) := by
  obtain ⟨hlower, hplain⟩ := mayGroup_of_group h hname
  refine ⟨hlower, fun hdot => hplain.resolve_left (absurd hdot), ?_⟩
  intro l word hl hword
  have hgroup : (t.store.group? name).isSome = true := by rwa [Store.group?, hlower]
  exact ⟨shift_takes_iff hl hword hgroup, shuffle_takes_iff hl hword hgroup,
    generate_takes_iff hl hword (locate_of_group h hname)⟩

/-- Makes a group and assigns it to a dotted name. -/
def dottedCrew : Program := [
  .block .gen ⟨1, "GEN crew"⟩ [] ⟨2, "GENEND"⟩,
  .line ⟨3, "ASSIGNGEN a.b = crew"⟩]

theorem dotted_groups_are_assigned_crew :
    ∃ t, Reaches 2 dottedCrew (crewSetup.initial ⟨fun _ => 0, 0⟩) t ∧
      t.store.groups.contains "a.b" = true ∧ t.store.groups.contains "crew" = true ∧
      (∃ l, Occurs (.line l) dottedCrew ∧ Assigns .assignGen l "a.b") ∧
      ∃ t', shift ⟨4, "SHIFT Crew"⟩ t = .ok t' := by
  obtain ⟨t, hreach, hboth⟩ := exists_reached 2 crewSetup dottedCrew ⟨fun _ => 0, 0⟩
    (fun t => t.store.groups.contains "a.b" && t.store.groups.contains "crew") (by decide +kernel)
  obtain ⟨hdotted, hplain⟩ : t.store.groups.contains "a.b" = true ∧
      t.store.groups.contains "crew" = true := by simpa using hboth
  refine ⟨t, hreach, hdotted, hplain, (dotted_groups_are_assigned hreach hdotted).2.1 (by decide), ?_⟩
  obtain ⟨hshift, -⟩ := (dotted_groups_are_assigned hreach hplain).2.2 ⟨4, "SHIFT Crew"⟩ "Crew"
    (by decide +kernel) (by decide +kernel)
  exact hshift.2 (by decide)

/-- A group is stored under a name with a period. -/
theorem dotted_group_is_stored :
    ∃ t, Reaches 2 dottedCrew (crewSetup.initial ⟨fun _ => 0, 0⟩) t ∧
      ∃ name, t.store.groups.contains name = true ∧ '.' ∈ name.toList := by
  obtain ⟨t, hreach, hgroup⟩ := exists_reached 2 crewSetup dottedCrew ⟨fun _ => 0, 0⟩
    (fun t => t.store.groups.contains "a.b") (by decide +kernel)
  exact ⟨t, hreach, "a.b", hgroup, by decide⟩

/-- No name in a setup has a period. -/
structure Undotted (u : Setup) : Prop where
  words : ∀ k, u.words.contains k = true → '.' ∉ k.toList
  sentences : ∀ k, u.sentences.contains k = true → '.' ∉ k.toList
  wordsAlias : '.' ∉ u.wordsAlias.toList
  sentencesAlias : '.' ∉ u.sentencesAlias.toList

/-- A dotted name is no variable at first. -/
theorem Undotted.not_lives_user {u : Setup} (hu : Undotted u) {name : String}
    (hdot : '.' ∈ name.toList) : ¬ u.store.Lives name .user := by
  have hlower {word : String} (hword : '.' ∉ word.toList) : name ≠ Text.lower word := by
    rintro rfl
    rw [Text.toList_lower] at hdot
    exact hword (Text.dot_mem_of_lowerAfter hdot)
  rintro (hvar | halias)
  · simp [Setup.store, Store.setAlias, Store.ofFolders, Table.contains] at hvar
  · rcases (Table.contains_insert _ _ _ _).1 halias with heq | halias
    · exact hlower hu.sentencesAlias heq
    · rcases (Table.contains_insert _ _ _ _).1 halias with heq | halias
      · exact hlower hu.wordsAlias heq
      · simp [Store.ofFolders, Table.contains] at halias

section Meaning

variable {limit : Nat} {u : Setup} {p : Program} {c : Chance} {t : State}
  (h : Reaches limit p (u.initial c) t) {name group field : String}
  (hname : Text.splitDotted (Text.lower name) = some (group, field))
include h hname

theorem lookup_all_of_reaches (hu : Undotted u) :
    t.store.lookup name .all = (t.store.lookup name .group).or (t.store.lookup name .user) := by
  have hdot := Text.dot_mem_of_splitDotted hname
  have hstable : u.store.Stable t.store := carried_stable.reaches h
  refine Store.lookup_all_of_dotted hname ?_ ?_
  · rw [hstable.words]
    exact Bool.eq_false_iff.2 fun hin => hu.words _ hin hdot
  · rw [hstable.sentences]
    exact Bool.eq_false_iff.2 fun hin => hu.sentences _ hin hdot

theorem lookup_group_of_reaches
    (hnone : ∀ l, Occurs (.line l) p → ¬ Assigns .assignGen l (Text.lower name)) :
    t.store.lookup name .group = (t.store.field? group field).map .list := by
  have hmissing : t.store.groups.get? (Text.lower name) = none := by
    by_contra hin
    have hcontains : t.store.groups.contains (Text.lower name) = true :=
      Option.isSome_iff_ne_none.2 hin
    obtain ⟨-, hplain | ⟨l, hl, hassigns⟩⟩ := mayGroup_of_group h hcontains
    · exact hplain (Text.dot_mem_of_splitDotted hname)
    · exact hnone l hl hassigns
  rw [Store.lookup_group_of_dotted hname, hmissing]
  simp

theorem lookup_user_of_reaches (hu : Undotted u)
    (hnone : ∀ l c, Occurs (.line l) p → ¬ Assigns c l (Text.lower name)) :
    t.store.lookup name .user = none := by
  by_contra hfound
  have hlives : t.store.Lives (Text.lower name) .user :=
    Store.FindsUser.lives (Option.isSome_iff_ne_none.2 hfound)
  rcases (adds_of_reaches h).user _ hlives with hfirst | ⟨l, c, -, hl, hassigns⟩
  · exact hu.not_lives_user (Text.dot_mem_of_splitDotted hname) hfirst
  · exact hnone l c hl hassigns

end Meaning

/-- Without periods in the names of the setup, a dotted name is looked up as a group, as a field of
an active member and then as a variable, and only lines that assign to it make it a group or a
variable. Otherwise all look-ups find the field of the active member, or nothing without one. -/
theorem dotted_name_means_field {limit : Nat} {u : Setup} {p : Program} {c : Chance} {t : State}
    (hu : Undotted u) (h : Reaches limit p (u.initial c) t) {name group field : String}
    (hname : Text.splitDotted (Text.lower name) = some (group, field)) :
    t.store.lookup name .all = (t.store.lookup name .group).or (t.store.lookup name .user) ∧
    ((∀ l, Occurs (.line l) p → ¬ Assigns .assignGen l (Text.lower name)) →
      t.store.lookup name .group = (t.store.field? group field).map .list) ∧
    ((∀ l c, Occurs (.line l) p → ¬ Assigns c l (Text.lower name)) →
      t.store.lookup name .all = (t.store.field? group field).map .list) := by
  have hall := lookup_all_of_reaches h hname hu
  refine ⟨hall, lookup_group_of_reaches h hname, ?_⟩
  intro hnone
  rw [hall, lookup_user_of_reaches h hname hu hnone, Option.or_none]
  exact lookup_group_of_reaches h hname fun l hl => hnone l .assignGen hl

/-- Makes a group whose members have a pet. -/
def petCrew : Program :=
  [.block .gen ⟨1, "GEN crew 2"⟩ [.line ⟨2, "pet 1 noun"⟩] ⟨3, "GENEND"⟩]

theorem undotted_crewSetup : Undotted crewSetup where
  words k hk := by
    have hkeys : crewSetup.words.keys = ["noun"] := by decide +kernel
    have hnoun : k = "noun" := by simpa [Table.contains_iff, hkeys] using hk
    rw [hnoun]
    decide
  sentences k hk := by
    have hkeys : crewSetup.sentences.keys = [] := by decide +kernel
    simp [Table.contains_iff, hkeys] at hk
  wordsAlias := by decide
  sentencesAlias := by decide

theorem dotted_name_means_field_pet :
    Undotted crewSetup ∧ ∃ t, Reaches 2 petCrew (crewSetup.initial ⟨fun _ => 0, 0⟩) t ∧
      t.store.lookup "Crew.pet" .all = some (.list ["cat"]) := by
  obtain ⟨t, hreach, hfield⟩ := exists_reached 2 crewSetup petCrew ⟨fun _ => 0, 0⟩
    (fun t => t.store.field? "crew" "pet" == some ["cat"]) (by decide +kernel)
  have hname : Text.splitDotted (Text.lower "Crew.pet") = some ("crew", "pet") := by decide +kernel
  have hlines (l : Line) (hl : Occurs (.line l) petCrew) (c : Command) :
      ¬ Assigns c l (Text.lower "Crew.pet") := by
    have hpet : l = ⟨2, "pet 1 noun"⟩ := by simpa [petCrew] using hl
    rintro ⟨hcommand, -⟩
    rw [hpet] at hcommand
    have hnone : Command.ofLine? ⟨2, "pet 1 noun"⟩ = none := by decide +kernel
    simp [hnone] at hcommand
  have hmeaning := (dotted_name_means_field undotted_crewSetup hreach hname).2.2
    fun l c hl => hlines l hl c
  refine ⟨undotted_crewSetup, t, hreach, ?_⟩
  rw [hmeaning, beq_iff_eq.1 hfield]
  rfl

/-- Assigns to a dotted name before there is a group of that name. -/
def moodyCrew : Program := [
  .line ⟨1, "ASSIGNLIST crew.mood = \"calm\""⟩,
  .block .gen ⟨2, "GEN crew"⟩ [] ⟨3, "GENEND"⟩]

/-- A dotted name is found in the whole store, though its group is there and its active member has no
such field. -/
theorem dotted_name_means_variable :
    Undotted crewSetup ∧ ∃ t, Reaches 2 moodyCrew (crewSetup.initial ⟨fun _ => 0, 0⟩) t ∧
      t.store.groups.contains "crew" = true ∧ t.store.lookup "crew.mood" .group = none ∧
      ∃ view, t.store.lookup "crew.mood" .all = some view := by
  obtain ⟨t, hreach, hparts⟩ := exists_reached 2 crewSetup moodyCrew ⟨fun _ => 0, 0⟩
    (fun t => t.store.groups.contains "crew" && (t.store.lookup "crew.mood" .group).isNone &&
      (t.store.lookup "crew.mood" .all).isSome) (by decide +kernel)
  simp only [Bool.and_eq_true, Option.isNone_iff_eq_none, Option.isSome_iff_exists] at hparts
  exact ⟨undotted_crewSetup, t, hreach, hparts.1.1, hparts.1.2, hparts.2⟩

end ProseScript.Run
