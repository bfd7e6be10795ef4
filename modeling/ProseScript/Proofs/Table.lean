import Mathlib.Data.List.Nodup
import ProseScript.Table

/-!
Keys of tables. Main statement: distinct keys stay distinct under insertion, erasure and merging, and
whatever is built by insertions has distinct keys.
-/

namespace ProseScript.Table

variable {α : Type}

theorem contains_iff (t : Table α) (key : String) : t.contains key = true ↔ key ∈ t.keys := by
  obtain ⟨es⟩ := t
  simp only [contains, get?, keys]
  induction es with
  | nil => simp
  | cons e rest ih =>
    obtain ⟨n, x⟩ := e
    rw [lookup_cons_ite]
    by_cases h : key = n
    · simp [h]
    · simp [h, ih]

/-- A replaced entry leaves the keys as they are. -/
theorem keys_insert_of_contains {t : Table α} {key : String} (h : t.contains key = true) (a : α) :
    (t.insert key a).keys = t.keys := by
  rw [keys_insert, if_pos ((t.contains_iff key).1 h)]

theorem keys_erase (t : Table α) (key : String) : (t.erase key).keys = t.keys.erase key := by
  obtain ⟨es⟩ := t
  simp only [keys, erase]
  induction es with
  | nil => simp [drop]
  | cons e rest ih =>
    by_cases h : e.1 = key
    · simp [drop, h]
    · simp [drop, h, ih]

theorem keys_erase_of_nodup {t : Table α} (h : t.keys.Nodup) (key : String) :
    (t.erase key).keys = t.keys.filter (· ≠ key) := by
  rw [keys_erase, h.erase_eq_filter]
  simp only [ne_eq, decide_not, bne, beq_eq_decide]

theorem nodup_insert {t : Table α} (h : t.keys.Nodup) (key : String) (a : α) :
    (t.insert key a).keys.Nodup := by
  rw [keys_insert]
  split
  · exact h
  · next hnew =>
    have hone : [key].Nodup := List.nodup_singleton key
    refine h.append hone ?_
    intro k hk hone
    exact hnew (List.mem_singleton.1 hone ▸ hk)

theorem nodup_erase {t : Table α} (h : t.keys.Nodup) (key : String) :
    (t.erase key).keys.Nodup := by
  rw [keys_erase]
  exact h.erase key

theorem nodup_merge {t : Table α} (h : t.keys.Nodup) (u : Table α) :
    (t.merge u).keys.Nodup := by
  obtain ⟨es⟩ := u
  simp only [merge]
  induction es generalizing t with
  | nil => exact h
  | cons e rest ih => exact ih (nodup_insert h e.1 e.2)

theorem nodup_eraseAll {t : Table α} (h : t.keys.Nodup) (ks : List String) :
    (t.eraseAll ks).keys.Nodup := by
  simp only [eraseAll]
  induction ks generalizing t with
  | nil => exact h
  | cons k rest ih => exact ih (nodup_erase h k)

theorem nodup_empty : (empty : Table α).keys.Nodup := List.nodup_nil

theorem nodup_ofEntries (entries : List (String × α)) : (ofEntries entries).keys.Nodup :=
  nodup_merge nodup_empty ⟨entries⟩

/-- An erased key is gone, given that it stood there only once. -/
theorem contains_erase {t : Table α} (h : t.keys.Nodup) (key k : String) :
    (t.erase key).contains k = true ↔ k ≠ key ∧ t.contains k = true := by
  rw [contains_iff, contains_iff, keys_erase, h.mem_erase_iff]

theorem get?_erase_of_ne (t : Table α) {key k : String} (h : k ≠ key) :
    (t.erase key).get? k = t.get? k := by
  obtain ⟨es⟩ := t
  simp only [get?, erase]
  induction es with
  | nil => rfl
  | cons e rest ih =>
    obtain ⟨n, x⟩ := e
    simp only [drop]
    split
    · next hn =>
      have hn' : k ≠ n := fun hk => h (hk.trans hn)
      rw [lookup_cons_ite, if_neg hn']
    · rw [lookup_cons_ite, lookup_cons_ite, ih]

theorem contains_insert (t : Table α) (key k : String) (a : α) :
    (t.insert key a).contains k = true ↔ k = key ∨ t.contains k = true := by
  simp only [contains, get?_insert]
  by_cases h : k = key
  · simp [h]
  · simp [h]

@[simp] theorem contains_insert_self (t : Table α) (key : String) (a : α) :
    (t.insert key a).contains key = true :=
  (contains_insert t key key a).2 (.inl rfl)

theorem contains_insert_of_ne (t : Table α) {key k : String} (h : k ≠ key) (a : α) :
    (t.insert key a).contains k = t.contains k := by
  simp only [contains, get?_insert, if_neg h]

theorem contains_insert_of_contains {t : Table α} {key : String} (h : t.contains key = true) (a : α)
    (k : String) : (t.insert key a).contains k = t.contains k := by
  by_cases hk : k = key
  · rw [hk, contains_insert_self, h]
  · exact t.contains_insert_of_ne hk a

theorem get?_eq_none_iff {t : Table α} {key : String} : t.get? key = none ↔ key ∉ t.keys := by
  rw [← t.contains_iff, contains, Option.isSome_iff_ne_none, not_not]

theorem get?_erase_self {t : Table α} (h : t.keys.Nodup) (key : String) :
    (t.erase key).get? key = none := by
  rw [get?_eq_none_iff, ← contains_iff, contains_erase h]
  simp

theorem merge_concat (t : Table α) (es : List (String × α)) (e : String × α) :
    t.merge ⟨es ++ [e]⟩ = (t.merge ⟨es⟩).insert e.1 e.2 := by
  simp [merge]

theorem keys_concat (es : List (String × α)) (e : String × α) :
    keys ⟨es ++ [e]⟩ = keys ⟨es⟩ ++ [e.1] := by
  simp [keys]

/-- After a merger the keys of the other table read as there. -/
theorem get?_merge (t : Table α) {u : Table α} (h : u.keys.Nodup) (k : String) :
    (t.merge u).get? k = (u.get? k).or (t.get? k) := by
  obtain ⟨es⟩ := u
  simp only [merge]
  induction es generalizing t with
  | nil => rfl
  | cons e rest ih =>
    obtain ⟨key, a⟩ := e
    obtain ⟨hkey, hrest⟩ := List.nodup_cons.1 h
    rw [List.foldl_cons, ih (t.insert key a) hrest, get?_insert]
    simp only [get?, lookup_cons_ite]
    by_cases hk : k = key
    · have hnone : List.lookup k rest = none :=
        get?_eq_none_iff (t := ⟨rest⟩).2 (hk ▸ hkey)
      simp [hk ▸ hnone, hk]
    · simp [hk]

theorem get?_eraseAll {t : Table α} (h : t.keys.Nodup) (ks : List String) (k : String) :
    (t.eraseAll ks).get? k = if k ∈ ks then none else t.get? k := by
  simp only [eraseAll]
  induction ks generalizing t with
  | nil => simp
  | cons key rest ih =>
    rw [List.foldl_cons, ih (nodup_erase h key)]
    by_cases hk : k = key
    · simp [hk, get?_erase_self h]
    · simp [hk, get?_erase_of_ne]

/-- Of two insertions of one key the later counts. -/
theorem insert_insert (t : Table α) (key : String) (a b : α) :
    (t.insert key a).insert key b = t.insert key b := by
  obtain ⟨es⟩ := t
  simp only [insert, mk.injEq]
  induction es with
  | nil => simp [put]
  | cons e rest ih =>
    by_cases h : e.1 = key
    · simp [put, h]
    · simp [put, h, ih]

/-- An entry with a new key goes to the end. -/
theorem entries_insert_of_not_mem {t : Table α} {key : String} (h : key ∉ t.keys) (a : α) :
    (t.insert key a).entries = t.entries ++ [(key, a)] := by
  obtain ⟨es⟩ := t
  simp only [keys, insert] at h ⊢
  induction es with
  | nil => rfl
  | cons e rest ih =>
    have hne : e.1 ≠ key := fun heq => h (by simp [heq])
    have hrest : key ∉ rest.map Prod.fst := fun hin => h (List.mem_cons_of_mem _ hin)
    simp [put, hne, ih hrest]

/-- Entries with new and different keys all go to the end. -/
theorem entries_merge_of_nodup {t u : Table α} (h : (t.keys ++ u.keys).Nodup) :
    (t.merge u).entries = t.entries ++ u.entries := by
  obtain ⟨es⟩ := u
  simp only [merge]
  induction es generalizing t with
  | nil => simp
  | cons e rest ih =>
    have hnew : e.1 ∉ t.keys := by
      intro hin
      exact (List.nodup_append.1 h).2.2 e.1 hin e.1 (by simp [keys]) rfl
    have hkeys : ((t.insert e.1 e.2).keys ++ keys ⟨rest⟩).Nodup := by
      rw [keys_insert, if_neg hnew, List.append_assoc]
      exact h
    rw [List.foldl_cons, ih hkeys, entries_insert_of_not_mem hnew]
    simp

theorem entries_ofEntries {es : List (String × α)} (h : (es.map Prod.fst).Nodup) :
    (ofEntries es).entries = es :=
  entries_merge_of_nodup (t := empty) (u := ⟨es⟩) h

section Map

variable {β : Type}

def map (f : α → β) (t : Table α) : Table β := ⟨t.entries.map fun e => (e.1, f e.2)⟩

theorem get?_map (f : α → β) (t : Table α) (key : String) :
    (t.map f).get? key = (t.get? key).map f := by
  obtain ⟨es⟩ := t
  simp only [map, get?]
  induction es with
  | nil => rfl
  | cons e rest ih =>
    rw [List.map_cons, lookup_cons_ite, lookup_cons_ite, ih]
    split <;> rfl

theorem map_insert (f : α → β) (t : Table α) (key : String) (a : α) :
    (t.insert key a).map f = (t.map f).insert key (f a) := by
  obtain ⟨es⟩ := t
  simp only [map, insert, mk.injEq]
  induction es with
  | nil => rfl
  | cons e rest ih =>
    by_cases h : e.1 = key
    · simp [put, h]
    · simp [put, h, ih]

end Map

end ProseScript.Table
