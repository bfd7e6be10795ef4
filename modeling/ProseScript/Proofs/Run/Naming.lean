import ProseScript.Proofs.Run.Fields

/-!
Members of genders. Main statement: each member of a group that is made by genders has the word forms
of a gender of its set, and a name of that gender which no other member has, or none at all when the
members before it have taken them all.
-/

namespace ProseScript

namespace Entity

variable {fs : List (String × List String)}

theorem get?_foldl_set_of_not_mem {name : String} (hname : name ∉ fs.map Prod.fst) (e : Entity) :
    (fs.foldl (fun e f => e.set f.1 f.2) e).get? name = e.get? name := by
  induction fs generalizing e with
  | nil => rfl
  | cons f rest ih =>
    simp only [List.map_cons, List.mem_cons, not_or] at hname
    rw [List.foldl_cons, ih hname.2, get?_set_of_ne e f.2 hname.1]

theorem get?_foldl_set_of_mem (hkeys : (fs.map Prod.fst).Nodup) {f : String × List String}
    (hf : f ∈ fs) (e : Entity) :
    (fs.foldl (fun e f => e.set f.1 f.2) e).get? f.1 = some f.2 := by
  induction fs generalizing e with
  | nil => simp at hf
  | cons g rest ih =>
    obtain ⟨hlast, hrest⟩ := List.nodup_cons.1 hkeys
    rcases List.mem_cons.1 hf with rfl | hf
    · rw [List.foldl_cons, get?_foldl_set_of_not_mem hlast, get?_set_self]
    · exact ih hrest hf _

end Entity

namespace Run

section Forms

variable (p : GenderProfile) (name : Option String)

theorem get?_genderedEntity_name : (genderedEntity p name).get? "name" = some name.toList := by
  have hname : "name" ∉ p.pronouns.forms.map Prod.fst := by
    simp [Pronouns.forms]
  rw [genderedEntity, Entity.get?_foldl_set_of_not_mem hname, Entity.get?_set_self]

theorem get?_genderedEntity_form {f : String × List String} (hf : f ∈ p.pronouns.forms) :
    (genderedEntity p name).get? f.1 = some f.2 := by
  have hkeys : (p.pronouns.forms.map Prod.fst).Nodup := by
    simp [Pronouns.forms]
  rw [genderedEntity, Entity.get?_foldl_set_of_mem hkeys hf]

theorem map_name_zipWith {profiles : List GenderProfile} {names : List (Option String)}
    (h : profiles.length = names.length) :
    (List.zipWith genderedEntity profiles names).map (·.get? "name") =
      names.map fun name => some name.toList := by
  apply List.ext_getElem
  · simp [h]
  · intro i _ _
    simp [get?_genderedEntity_name]

end Forms

/-- Names that are handed out in a row, to one after the other from the pool of each, when some are
used already. -/
inductive Christened : List String → List GenderProfile → List (Option String) → Prop
  | nil (used : List String) : Christened used [] []
  | named {used : List String} {p : GenderProfile} {ps : List GenderProfile} {name : String}
      {names : List (Option String)} (hpool : name ∈ p.names) (hfree : name ∉ used)
      (h : Christened (used ++ [name]) ps names) : Christened used (p :: ps) (some name :: names)
  | nameless {used : List String} {p : GenderProfile} {ps : List GenderProfile}
      {names : List (Option String)} (hused : ∀ name ∈ p.names, name ∈ used)
      (h : Christened used ps names) : Christened used (p :: ps) (none :: names)

namespace Christened

variable {used : List String} {ps : List GenderProfile} {names : List (Option String)}
  (h : Christened used ps names)
include h

theorem not_used {name : String} (hname : some name ∈ names) : name ∉ used := by
  induction h with
  | nil => simp at hname
  | @named used p ps first names hpool hfree h ih =>
    rcases List.mem_cons.1 hname with hfirst | hrest
    · exact Option.some.inj hfirst ▸ hfree
    · exact fun hmem => ih hrest (List.mem_append_left _ hmem)
  | nameless hused h ih =>
    exact ih (by simpa using hname)

/-- No name is handed out twice. -/
theorem eq_of_eq {i j : Nat} {name : String} (hi : names[i]? = some (some name))
    (hj : names[j]? = some (some name)) : i = j := by
  induction h generalizing i j with
  | nil => simp at hi
  | @named used p ps first names hpool hfree h ih =>
    have hlater {k : Nat} (hk : names[k]? = some (some first)) : False :=
      h.not_used (List.mem_of_getElem? hk) (by simp)
    cases i with
    | zero =>
      obtain rfl : first = name := by simpa using hi
      cases j with
      | zero => rfl
      | succ j => exact (hlater (by simpa using hj)).elim
    | succ i =>
      cases j with
      | zero =>
        obtain rfl : first = name := by simpa using hj
        exact (hlater (by simpa using hi)).elim
      | succ j => exact congrArg (· + 1) (ih (by simpa using hi) (by simpa using hj))
  | nameless hused h ih =>
    cases i with
    | zero => simp at hi
    | succ i =>
      cases j with
      | zero => simp at hj
      | succ j => exact congrArg (· + 1) (ih (by simpa using hi) (by simpa using hj))

theorem mem_pool {i : Nat} {p : GenderProfile} {name : String} (hp : ps[i]? = some p)
    (hname : names[i]? = some (some name)) : name ∈ p.names := by
  induction h generalizing i with
  | nil => simp at hp
  | named hpool hfree h ih =>
    cases i with
    | zero =>
      obtain rfl : _ = p := by simpa using hp
      obtain rfl : _ = name := by simpa using hname
      exact hpool
    | succ i => exact ih (by simpa using hp) (by simpa using hname)
  | nameless hused h ih =>
    cases i with
    | zero => simp at hname
    | succ i => exact ih (by simpa using hp) (by simpa using hname)

/-- One goes without a name only if its whole pool is in use. -/
theorem pool_used {i : Nat} {p : GenderProfile} (hp : ps[i]? = some p) (hnone : names[i]? = some none)
    {name : String} (hname : name ∈ p.names) :
    name ∈ used ∨ ∃ j < i, names[j]? = some (some name) := by
  induction h generalizing i with
  | nil => simp at hp
  | @named used q ps first names hpool hfree h ih =>
    cases i with
    | zero => simp at hnone
    | succ i =>
      rcases ih (by simpa using hp) (by simpa using hnone) with hmem | ⟨j, hj, hearlier⟩
      · rcases List.mem_append.1 hmem with hmem | hmem
        · exact .inl hmem
        · obtain rfl := List.mem_singleton.1 hmem
          exact .inr ⟨0, by omega, rfl⟩
      · exact .inr ⟨j + 1, by omega, by simpa using hearlier⟩
  | nameless hused h ih =>
    cases i with
    | zero =>
      obtain rfl : _ = p := by simpa using hp
      exact .inl (hused name hname)
    | succ i =>
      rcases ih (by simpa using hp) (by simpa using hnone) with hmem | ⟨j, hj, hearlier⟩
      · exact .inl hmem
      · exact .inr ⟨j + 1, by omega, by simpa using hearlier⟩

end Christened

/-- Members of genders are made from profiles of the set, with names handed out in a row. -/
theorem christened_of_genderedEntities {genders : Genders} {set used : List String} {n : Nat}
    {c c' : Chance} {made : List Entity}
    (h : genderedEntities genders set n used c = some (made, c')) :
    ∃ profiles names, made = List.zipWith genderedEntity profiles names ∧
      (∀ p ∈ profiles, ∃ gender ∈ set, genders.profiles.get? gender = some p) ∧
      profiles.length = names.length ∧ Christened used profiles names := by
  induction n generalizing used c c' made with
  | zero =>
    obtain ⟨rfl, -⟩ := Prod.mk.inj (Option.some.inj h)
    exact ⟨[], [], rfl, by simp, rfl, .nil used⟩
  | succ n ih =>
    simp only [genderedEntities] at h
    split at h
    · simp at h
    · next p hp =>
      split at h
      · simp at h
      · next members after hrest =>
        obtain ⟨rfl, -⟩ := Prod.mk.inj (Option.some.inj h)
        obtain ⟨profiles, names, rfl, hset, hlength, hnames⟩ := ih hrest
        obtain ⟨gender, hgender, hprofile⟩ := Option.bind_eq_some_iff.1 hp
        have hmem : gender ∈ set := Chance.mem_of_choose (Prod.ext hgender rfl)
        refine ⟨p :: profiles, _ :: names, rfl,
          List.forall_mem_cons.2 ⟨⟨gender, hmem, hprofile⟩, hset⟩, by simp [hlength], ?_⟩
        cases hone : (Sampling.one p.names used (c.choose set).2).1 with
        | none =>
          rw [hone, Option.toList_none, List.append_nil] at hnames
          exact .nameless (Sampling.one_eq_none_iff.1 hone) hnames
        | some name =>
          rw [hone, Option.toList_some] at hnames
          obtain ⟨hpool, hfree⟩ := Sampling.mem_of_one hone
          exact .named hpool hfree hnames

section Block

variable {l : Line} {body : List Node} {s t : State}

/-- A block stores what it has made and filled. -/
theorem made_of_generate (h : generate l body s = .ok t) :
    ∃ word options n c made chance start members u,
      l.paramWords = word :: options ∧ newMembers l s.genders n c options[1]? = .ok (made, chance) ∧
      fillFields body made start = .ok (members, u) ∧
      t.store.group? word = some ⟨members, some 0⟩ := by
  obtain ⟨word, options, _, n, c, made, chance, members, u, hwords, -, hcount, hmade, hfill, hstore,
    -⟩ := steps_of_generate h
  have hne : members ≠ [] := by
    have hlength := (length_of_fillFields hfill).trans (newMembers_shape hmade).1
    have hpos := ne_zero_of_memberCount hcount
    exact List.ne_nil_of_length_pos (by omega)
  refine ⟨word, options, n, c, made, chance, _, members, u, hwords, hmade, hfill, ?_⟩
  simp [storeGroup_eq hne hstore, Store.group?, Store.setGroup]

theorem genderedEntities_of_newMembers {n : Nat} {c c' : Chance} {genderSet : String}
    {made : List Entity} (h : newMembers l s.genders n c (some genderSet) = .ok (made, c')) :
    ∃ set, s.genders.sets.get? (Text.lower genderSet) = some set ∧
      genderedEntities s.genders set n [] c = some (made, c') := by
  simp only [newMembers] at h
  split at h
  · next result hresult =>
    obtain rfl := Except.ok.inj h
    exact Option.bind_eq_some_iff.1 hresult
  · simp at h

end Block

end Run

end ProseScript
