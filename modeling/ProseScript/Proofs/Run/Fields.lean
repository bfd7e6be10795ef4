import ProseScript.Proofs.Run.Frame
import ProseScript.Proofs.Sampling
import ProseScript.Proofs.Store.Locate

/-!
Fields of generated members. Main statement: a block makes a group of as many members as its amount
comes to, all with the same fields; each field holds a sample of its source, and where members are to
share no items, later members get what the earlier ones left.
-/

namespace ProseScript

namespace Entity

def names (e : Entity) : List String := e.fields.map Prod.fst

/-- The place of a name among ascending names. -/
def placeName (name : String) : List String → List String
  | [] => [name]
  | n :: rest =>
      if n = name then name :: rest
      else if name < n then name :: n :: rest
      else n :: placeName name rest

/-- The names after a field has been set do not depend on its items. -/
theorem names_set (e : Entity) (name : String) (items : List String) :
    (e.set name items).names = placeName name e.names := by
  obtain ⟨fs⟩ := e
  simp only [names, set]
  induction fs with
  | nil => rfl
  | cons f rest ih =>
    simp only [place, placeName, List.map_cons]
    split
    · rfl
    split
    · rfl
    · rw [List.map_cons, ih]

theorem names_foldl_set (fs : List (String × List String)) (e : Entity) :
    (fs.foldl (fun e f => e.set f.1 f.2) e).names =
      (fs.map Prod.fst).foldl (fun ns n => placeName n ns) e.names := by
  induction fs generalizing e with
  | nil => rfl
  | cons f rest ih => rw [List.foldl_cons, ih, names_set, List.map_cons, List.foldl_cons]

end Entity

namespace Run

open Sampling

/-- All members have fields of the same names. -/
def SameFields (members : List Entity) : Prop := ∃ names, ∀ e ∈ members, e.names = names

/-- A line in the body of a block that gives members an amount of items of a source as their field,
and says whether they may share items. -/
inductive FieldLine (l : Line) : String → Amount → String → Bool → Prop
  | shared {field count source : String} {amount : Amount} (hidle : l.isIdle = false)
      (hwords : Text.words l.text = [field, count, source])
      (hamount : Amount.ofCount? count = some amount) :
      FieldLine l (Text.lower field) amount (Text.lower source) false
  | distinct {field count source flag : String} {amount : Amount} (hidle : l.isIdle = false)
      (hwords : Text.words l.text = [field, count, source, flag])
      (hamount : Amount.ofCount? count = some amount)
      (hflag : Text.sameWord flag "allunique" = true) :
      FieldLine l (Text.lower field) amount (Text.lower source) true

/-- A line in the body of a block that names a field by its first word. -/
def NamesField (l : Line) (field : String) : Prop :=
  l.isIdle = false ∧ (Text.words l.text).head?.map Text.lower = some field

theorem FieldLine.namesField {l : Line} {field : String} {amount : Amount} {source : String}
    {distinct : Bool} (h : FieldLine l field amount source distinct) : NamesField l field := by
  cases h with
  | shared hidle hwords _ => exact ⟨hidle, by simp [hwords]⟩
  | distinct hidle hwords _ _ => exact ⟨hidle, by simp [hwords]⟩

/-- How a source is spread over members in a row: each gets a sample of it; or, with distinct items,
what the members before it have left. -/
def Spread (source : List String) (count : Nat) : Bool → List (List String) → Prop
  | false, lists => ∀ xs ∈ lists, Drawn source (min count source.dedup.length) xs
  | true, lists => lists.Pairwise List.Disjoint ∧ ∀ i xs, lists[i]? = some xs →
      Drawn source (min count (source.dedup.length - min source.dedup.length (i * count))) xs

theorem spread_of_dealt {source : List String} {count : Nat} {distinct : Bool}
    {lists : List (List String)} (h : Dealt source count distinct [] lists) :
    Spread source count distinct lists := by
  cases distinct with
  | false => simpa [Spread] using h.each
  | true =>
    obtain ⟨-, hapart, hsizes⟩ := h.apart (Taken.nil source count)
    exact ⟨hapart, by simpa using hsizes⟩

section Fill

variable {l : Line} {s t : State} {members members' : List Entity}

/-- Members that receive lists, one each, as a field. -/
def give (field : String) (members : List Entity) (lists : List (List String)) : List Entity :=
  List.zipWith (fun e xs => e.set field xs) members lists

theorem exists_dealt (field : String) (count : Nat) (source : List String) (distinct : Bool)
    (members : List Entity) (taken : List String) (c : Chance) :
    ∃ lists, lists.length = members.length ∧ Dealt source count distinct taken lists ∧
      (fillMembers field count source distinct members taken c).1 = give field members lists := by
  induction members generalizing taken c with
  | nil => exact ⟨[], rfl, .nil taken, rfl⟩
  | cons e rest ih =>
    obtain ⟨lists, hlength, hdealt, hrest⟩ := ih
      (if distinct then taken ++ (unique source count taken c).1 else taken)
      (unique source count taken c).2
    refine ⟨(unique source count taken c).1 :: lists, by simp [hlength],
      .cons (drawn_unique source count taken c) hdealt, ?_⟩
    simp [fillMembers, give, hrest]

theorem amount_of_fieldCount {c c' : Chance} {text : String} {count : Nat}
    (h : fieldCount l c text = .ok (count, c')) :
    ∃ amount, Amount.ofCount? text = some amount ∧ (amount.resolve c).1 = count := by
  unfold fieldCount at h
  split at h
  · simp at h
  · next amount hamount =>
    simp only at h
    split at h
    · simp at h
    · exact ⟨amount, hamount, (Prod.mk.inj (Except.ok.inj h)).1⟩

theorem fieldSource_eq_ok_iff {name : String} {items : List String} :
    fieldSource l s name = .ok items ↔ s.lookup name = some (.list items) := by
  unfold fieldSource
  cases s.lookup name with
  | none => simp
  | some view => cases view <;> simp

theorem fieldLine_of_flags {field count source : String} {flags : List String} {amount : Amount}
    {distinct : Bool} (hidle : l.isIdle = false)
    (hwords : Text.words l.text = field :: count :: source :: flags) (hflags : ¬ 1 < flags.length)
    (hamount : Amount.ofCount? count = some amount)
    (hdistinct : wantsDistinct l flags[0]? = .ok distinct) :
    FieldLine l (Text.lower field) amount (Text.lower source) distinct := by
  match flags with
  | [] =>
    obtain rfl := Except.ok.inj hdistinct
    exact .shared hidle hwords hamount
  | [flag] =>
    simp only [List.getElem?_cons_zero, wantsDistinct] at hdistinct
    split at hdistinct
    · next hflag =>
      obtain rfl := Except.ok.inj hdistinct
      exact .distinct hidle hwords hamount hflag
    · simp at hdistinct
  | _ :: _ :: _ => simp at hflags

/-- A field line gives the members lists that it deals out of its source. -/
theorem dealt_of_fillField (hidle : l.isIdle = false)
    (h : fillField l members s = .ok (members', t)) :
    ∃ field amount source distinct items lists, FieldLine l field amount source distinct ∧
      s.lookup source = some (.list items) ∧ lists.length = members.length ∧
      Dealt items (amount.resolve s.chance).1 distinct [] lists ∧
      members' = give field members lists := by
  obtain ⟨field, count, source, flags, _, n, c, distinct, items, chance, hwords, hflags, hcount,
    hdistinct, hitems, hfill, -⟩ := steps_of_fillField hidle h
  obtain ⟨amount, hamount, rfl⟩ := amount_of_fieldCount hcount
  obtain ⟨lists, hlength, hdealt, hgive⟩ :=
    exists_dealt (Text.lower field) (amount.resolve s.chance).1 items distinct members [] c
  rw [hfill] at hgive
  exact ⟨_, amount, _, distinct, items, lists,
    fieldLine_of_flags hidle hwords hflags hamount hdistinct, fieldSource_eq_ok_iff.1 hitems,
    hlength, hdealt, hgive⟩

section Give

variable {field other : String} {lists : List (List String)}

theorem length_give (h : lists.length = members.length) :
    (give field members lists).length = members.length := by
  simp [give, h]

theorem map_get?_give (h : lists.length = members.length) :
    (give field members lists).map (·.get? field) = lists.map some := by
  induction members generalizing lists with
  | nil => simp [give, List.length_eq_zero_iff.1 h]
  | cons e rest ih =>
    cases lists with
    | nil => simp at h
    | cons xs lists =>
      have hrest := ih (Nat.succ.inj h)
      simpa [give, Entity.get?_set_self] using hrest

theorem map_get?_give_of_ne (h : lists.length = members.length) (hne : other ≠ field) :
    (give field members lists).map (·.get? other) = members.map (·.get? other) := by
  induction members generalizing lists with
  | nil => simp [give]
  | cons e rest ih =>
    cases lists with
    | nil => simp at h
    | cons xs lists =>
      have hrest := ih (Nat.succ.inj h)
      simpa [give, Entity.get?_set_of_ne e xs hne] using hrest

theorem SameFields.give (h : SameFields members) (field : String) (lists : List (List String)) :
    SameFields (give field members lists) := by
  obtain ⟨names, hnames⟩ := h
  refine ⟨Entity.placeName field names, ?_⟩
  intro e' he'
  obtain ⟨i, hi, rfl⟩ := List.getElem_of_mem he'
  simp only [Run.give, List.getElem_zipWith, Entity.names_set]
  rw [hnames _ (List.getElem_mem _)]

end Give

theorem fillFields_append {before after : List Node}
    (h : fillFields (before ++ after) members s = .ok (members', t)) :
    ∃ ms u, fillFields before members s = .ok (ms, u) ∧
      fillFields after ms u = .ok (members', t) := by
  induction before generalizing members s with
  | nil => exact ⟨members, s, rfl, h⟩
  | cons n rest ih =>
    cases n with
    | line l =>
      simp only [List.cons_append, fillFields] at h ⊢
      split at h
      · next hfield => exact ih h
      · simp at h
    | block kind opener body closer => simp [fillFields] at h

theorem length_of_fillField (h : fillField l members s = .ok (members', t)) :
    members'.length = members.length := by
  cases hidle : l.isIdle with
  | true => rw [(eq_of_fillField_idle hidle h).1]
  | false =>
    obtain ⟨_, _, _, _, _, lists, -, -, hlength, -, rfl⟩ := dealt_of_fillField hidle h
    exact length_give hlength

theorem sameFields_of_fillField (hsame : SameFields members)
    (h : fillField l members s = .ok (members', t)) : SameFields members' := by
  cases hidle : l.isIdle with
  | true => rwa [(eq_of_fillField_idle hidle h).1]
  | false =>
    obtain ⟨field, _, _, _, _, lists, -, -, -, -, rfl⟩ := dealt_of_fillField hidle h
    exact hsame.give field lists

/-- A line leaves the fields that it does not name. -/
theorem map_get?_of_fillField {field : String} (hname : ¬ NamesField l field)
    (h : fillField l members s = .ok (members', t)) :
    members'.map (·.get? field) = members.map (·.get? field) := by
  cases hidle : l.isIdle with
  | true => rw [(eq_of_fillField_idle hidle h).1]
  | false =>
    obtain ⟨named, _, _, _, _, lists, hline, -, hlength, -, rfl⟩ := dealt_of_fillField hidle h
    refine map_get?_give_of_ne hlength ?_
    rintro rfl
    exact hname hline.namesField

section Body

variable {body : List Node} (h : fillFields body members s = .ok (members', t))

include h

theorem length_of_fillFields : members'.length = members.length :=
  rel_of_fillFields (R := fun x y => y.1.length = x.1.length) (fun _ => rfl)
    (fun _ _ _ hxy hyz => hyz.trans hxy) (fun _ _ _ _ _ _ hfield => length_of_fillField hfield) h

theorem sameFields_of_fillFields (hsame : SameFields members) : SameFields members' :=
  rel_of_fillFields (R := fun x y => SameFields x.1 → SameFields y.1) (fun _ => id)
    (fun _ _ _ hxy hyz => hyz ∘ hxy)
    (fun _ _ _ _ _ _ hfield hsame => sameFields_of_fillField hsame hfield) h hsame

theorem map_get?_of_fillFields {field : String}
    (hnames : ∀ l, .line l ∈ body → ¬ NamesField l field) :
    members'.map (·.get? field) = members.map (·.get? field) :=
  rel_of_fillFields (R := fun x y => y.1.map (·.get? field) = x.1.map (·.get? field))
    (fun _ => rfl) (fun _ _ _ hxy hyz => hyz.trans hxy)
    (fun l hl _ _ _ _ hfield => map_get?_of_fillField (hnames l hl) hfield) h

end Body

end Fill

section Made

variable {l : Line} {c c' : Chance} {n : Nat} {made : List Entity}

theorem names_genderedEntity (p q : GenderProfile) (a b : Option String) :
    (genderedEntity p a).names = (genderedEntity q b).names := by
  simp only [genderedEntity, Entity.names_foldl_set, Entity.names_set]
  rfl

theorem genderedEntities_shape {genders : Genders} {set used : List String}
    (h : genderedEntities genders set n used c = some (made, c')) :
    made.length = n ∧ ∀ e ∈ made, ∃ p name, e = genderedEntity p name := by
  induction n generalizing used c c' made with
  | zero =>
    obtain ⟨rfl, -⟩ := Prod.mk.inj (Option.some.inj h)
    simp
  | succ n ih =>
    simp only [genderedEntities] at h
    split at h
    · simp at h
    · next p _ =>
      split at h
      · simp at h
      · next members after hrest =>
        obtain ⟨hlength, hshape⟩ := ih hrest
        obtain ⟨rfl, -⟩ := Prod.mk.inj (Option.some.inj h)
        exact ⟨by simp [hlength], List.forall_mem_cons.2 ⟨⟨p, _, rfl⟩, hshape⟩⟩

/-- New members are as many as asked for, and have the same fields. -/
theorem newMembers_shape {genders : Genders} {word : Option String}
    (h : newMembers l genders n c word = .ok (made, c')) :
    made.length = n ∧ SameFields made := by
  cases word with
  | none =>
    obtain ⟨rfl, -⟩ := Prod.mk.inj (Except.ok.inj h)
    refine ⟨by simp, [], ?_⟩
    intro e he
    rw [List.eq_of_mem_replicate he]
    rfl
  | some word =>
    simp only [newMembers] at h
    split at h
    · next result hresult =>
      obtain rfl := Except.ok.inj h
      obtain ⟨set, -, hmade⟩ := Option.bind_eq_some_iff.1 hresult
      obtain ⟨hlength, hshape⟩ := genderedEntities_shape hmade
      refine ⟨hlength, (genderedEntity Genders.female none).names, ?_⟩
      intro e he
      obtain ⟨p, name, rfl⟩ := hshape e he
      exact names_genderedEntity p Genders.female name none
    · simp at h

theorem ne_zero_of_memberCount {text : Option String}
    (h : memberCount l c text = .ok (n, c')) : n ≠ 0 := by
  cases text with
  | none =>
    obtain ⟨rfl, -⟩ := Prod.mk.inj (Except.ok.inj h)
    decide
  | some text =>
    simp only [memberCount] at h
    split at h
    · simp at h
    · split at h
      · simp at h
      · next hne =>
        obtain ⟨rfl, -⟩ := Prod.mk.inj (Except.ok.inj h)
        exact hne

end Made

/-- Members that are stored stand under their name as a group that points at its first; all else in
the store is as it was. -/
theorem storeGroup_eq {l : Line} {word : String} {members : List Entity} {s t : Store}
    (hne : members ≠ []) (h : storeGroup l (Text.lower word) members s = .ok t) :
    t = s.setGroup word ⟨members, some 0⟩ := by
  have hlower := Text.lower_lower word
  unfold storeGroup at h
  split at h
  · simp at h
  · next assigned hassign =>
    have hstored : ∃ g : Group, g.members = members ∧
        assigned = { s with groups := s.groups.insert (Text.lower word) g } := by
      have hassigned := Store.assigned_of_assign hassign
      rw [hlower] at hassigned
      cases hassigned with
      | @group _ g _ _ => exact ⟨g.replaceMembers members, rfl, rfl⟩
      | newGroup _ => exact ⟨.ofMembers members, rfl, rfl⟩
      | user _ hkind => simp [Value.kind] at hkind
      | newUser _ hkind => simp [Value.kind] at hkind
    obtain ⟨g, hmembers, rfl⟩ := hstored
    have hpos : 0 < g.members.length := by
      rw [hmembers]
      exact List.length_pos_iff.2 hne
    have hpoint : g.pointAt 0 = some ⟨members, some 0⟩ := by
      rw [Group.pointAt, if_pos hpos, hmembers]
    simp only [Store.group?, hlower, Table.get?_insert_self, Option.bind_some, hpoint] at h
    rw [← Except.ok.inj h, Store.setGroup, Store.setGroup, hlower, Table.insert_insert]

theorem Filled.store_eq {s t : State} (h : Filled s t) : t.store = s.store := by
  unfold Filled at h
  rw [h]

/-- The last line that names a field decides what the members hold there. -/
theorem field_of_fillFields {body before after : List Node} {made members : List Entity}
    {start t : State} (h : fillFields body made start = .ok (members, t)) {l : Line}
    {field : String} (hbody : body = before ++ .line l :: after) (hnames : NamesField l field)
    (hlast : ∀ later, .line later ∈ after → ¬ NamesField later field) :
    ∃ amount source distinct items lists ms u, FieldLine l field amount source distinct ∧
      start.lookup source = some (.list items) ∧ fillFields before made start = .ok (ms, u) ∧
      members.map (·.get? field) = lists.map some ∧
      Spread items (amount.resolve u.chance).1 distinct lists := by
  subst hbody
  obtain ⟨ms, u, hbefore, hrest⟩ := fillFields_append h
  simp only [fillFields] at hrest
  split at hrest
  · next given v hfield =>
    obtain ⟨named, amount, source, distinct, items, lists, hline, hitems, hlength, hdealt, rfl⟩ :=
      dealt_of_fillField hnames.1 hfield
    obtain rfl : named = field := Option.some.inj (hline.namesField.2.symm.trans hnames.2)
    have hkept : members.map (·.get? named) = (give named ms lists).map (·.get? named) :=
      map_get?_of_fillFields hrest hlast
    have hlookup : start.lookup source = some (.list items) := by
      rw [← hitems, State.lookup, State.lookup, (frame_fillFields hbefore).store_eq]
    exact ⟨amount, source, distinct, items, lists, ms, u, hline, hlookup, hbefore,
      hkept.trans (map_get?_give hlength), spread_of_dealt hdealt⟩
  · simp at hrest

end Run

end ProseScript
