import Mathlib.Data.List.Induction
import ProseScript.Proofs.FirstOccurrence
import ProseScript.Proofs.Table

/-!
Tables as ordered maps. Main statement: an insertion, an erasure and a merger change what the keys
they name read as and leave all else as it was, also the order of the keys; new keys go to the end as
they arrive. Mergers are associative, positions included, with the empty table as their identity, and
a table takes itself in without a change.
-/

namespace ProseScript.Table

variable {α : Type}

/-- The table has these keys, each once and in this order, and names read in it as `read` says. -/
structure IsMap (t : Table α) (keys : List String) (read : String → Option α) : Prop where
  keys_eq : t.keys = keys
  nodup : t.keys.Nodup
  get?_eq : ∀ k, t.get? k = read k

/-- A merger leaves the keys where they are, and each new key comes to the end once. -/
theorem keys_merge (t u : Table α) :
    (t.merge u).keys = t.keys ++ (u.keys.filter (· ∉ t.keys)).eraseDups := by
  obtain ⟨es⟩ := u
  induction es using List.reverseRecOn with
  | nil => simp [merge, keys]
  | append_singleton es e ih =>
    rw [merge_concat, keys_concat, keys_insert, ih, List.filter_append]
    by_cases hold : e.1 ∈ t.keys
    · simp [hold]
    · by_cases harrived : e.1 ∈ keys ⟨es⟩
      · simp [hold, harrived, eraseDups_concat]
      · simp [hold, harrived, eraseDups_concat]

theorem keys_merge_of_nodup (t : Table α) {u : Table α} (hu : u.keys.Nodup) :
    (t.merge u).keys = t.keys ++ u.keys.filter (· ∉ t.keys) := by
  rw [keys_merge, eraseDups_of_nodup (hu.filter _)]

theorem keys_ofEntries (es : List (String × α)) :
    (ofEntries es).keys = (es.map Prod.fst).eraseDups := by
  have hempty : (empty : Table α).keys = [] := rfl
  rw [ofEntries, keys_merge, hempty]
  simp [keys]

/-- Of several entries of a key the last one counts. -/
theorem get?_ofEntries (es : List (String × α)) (k : String) :
    (ofEntries es).get? k = es.reverse.lookup k := by
  unfold ofEntries
  induction es using List.reverseRecOn with
  | nil => rfl
  | append_singleton es e ih =>
    rw [merge_concat, get?_insert, ih, List.reverse_concat, lookup_cons_ite]

theorem isMap_ofEntries (es : List (String × α)) :
    IsMap (ofEntries es) (es.map Prod.fst).eraseDups (es.reverse.lookup ·) where
  keys_eq := keys_ofEntries es
  nodup := nodup_ofEntries es
  get?_eq := get?_ofEntries es

section Change

variable {t : Table α} (ht : t.keys.Nodup)
include ht

theorem isMap_insert (key : String) (a : α) :
    IsMap (t.insert key a) (if key ∈ t.keys then t.keys else t.keys ++ [key])
      fun k => if k = key then some a else t.get? k where
  keys_eq := keys_insert t key a
  nodup := nodup_insert ht key a
  get?_eq k := get?_insert t key k a

theorem isMap_erase (key : String) :
    IsMap (t.erase key) (t.keys.filter (· ≠ key)) fun k => if k = key then none else t.get? k where
  keys_eq := keys_erase_of_nodup ht key
  nodup := nodup_erase ht key
  get?_eq k := by
    split
    · next hk => rw [hk, get?_erase_self ht]
    · next hk => exact t.get?_erase_of_ne hk

theorem isMap_merge {u : Table α} (hu : u.keys.Nodup) :
    IsMap (t.merge u) (t.keys ++ u.keys.filter (· ∉ t.keys))
      fun k => if k ∈ u.keys then u.get? k else t.get? k where
  keys_eq := keys_merge_of_nodup t hu
  nodup := nodup_merge ht u
  get?_eq k := by
    rw [get?_merge t hu]
    split
    · next hk =>
      obtain ⟨a, ha⟩ := Option.isSome_iff_exists.1 ((u.contains_iff k).2 hk)
      rw [ha, Option.some_or]
    · next hk => rw [get?_eq_none_iff.2 hk, Option.none_or]

end Change

section Equality

/-- The keys in their order, all different, and what they read as determine the entries. -/
theorem entries_eq_of_get?_eq {t u : Table α} (ht : t.keys.Nodup) (hkeys : t.keys = u.keys)
    (hget : ∀ k, t.get? k = u.get? k) : t.entries = u.entries := by
  obtain ⟨es⟩ := t
  obtain ⟨fs⟩ := u
  induction es generalizing fs with
  | nil =>
    have hnil : fs = [] := by simpa [keys] using hkeys.symm
    exact hnil.symm
  | cons e es ih =>
    cases fs with
    | nil => simp [keys] at hkeys
    | cons f fs =>
      obtain ⟨n, a⟩ := e
      obtain ⟨m, b⟩ := f
      obtain ⟨hnew, hes⟩ := List.nodup_cons.1 ht
      obtain ⟨rfl, hrest⟩ : n = m ∧ keys ⟨es⟩ = keys ⟨fs⟩ := List.cons.inj hkeys
      obtain rfl : a = b := by simpa [get?] using hget n
      have hget' : ∀ k, get? ⟨es⟩ k = get? ⟨fs⟩ k := by
        intro k
        by_cases hk : k = n
        · -- The first entry hides what the rest has under its key: nothing.
          have hnone : k ∉ keys ⟨es⟩ := hk ▸ hnew
          rw [get?_eq_none_iff.2 hnone, get?_eq_none_iff.2 (hrest ▸ hnone)]
        · simpa [get?, lookup_cons_ite, hk] using hget k
      exact congrArg ((n, a) :: ·) (ih hes fs hrest hget')

variable {t u v : Table α}

theorem entries_merge_assoc (ht : t.keys.Nodup) (hu : u.keys.Nodup) (hv : v.keys.Nodup) :
    ((t.merge u).merge v).entries = (t.merge (u.merge v)).entries := by
  have huv : (u.merge v).keys.Nodup := nodup_merge hu v
  refine entries_eq_of_get?_eq (nodup_merge (nodup_merge ht u) v) ?_ ?_
  · -- A key of `v` is new if neither `t` nor `u` has it, however the tables are bracketed.
    rw [keys_merge_of_nodup _ hv, keys_merge_of_nodup _ huv, keys_merge_of_nodup _ hu,
      keys_merge_of_nodup _ hv, List.filter_append, List.filter_filter, List.append_assoc]
    congr 2
    refine List.filter_congr ?_
    intro k _
    by_cases hk : k ∈ t.keys
    · simp [hk]
    · simp [hk]
  · intro k
    rw [get?_merge _ hv, get?_merge _ hu, get?_merge _ huv, get?_merge _ hv, Option.or_assoc]

theorem entries_empty_merge (ht : t.keys.Nodup) : ((empty : Table α).merge t).entries = t.entries :=
  entries_ofEntries ht

theorem entries_merge_self (ht : t.keys.Nodup) : (t.merge t).entries = t.entries := by
  refine entries_eq_of_get?_eq (nodup_merge ht t) ?_ ?_
  · simp [keys_merge_of_nodup t ht]
  · intro k
    rw [get?_merge t ht, Option.or_self]

end Equality

/-- Tables with distinct keys are ordered maps, and stay so. A key that is inserted or merged in reads
as it came, an erased key is gone, and all other keys read as before. The keys that stay keep their
order, and new keys go to the end as they arrive. As to the entries in their order, mergers are
associative, the empty table is their identity, and merging a table into itself changes nothing. -/
theorem tables_are_ordered_maps {t u v : Table α} (ht : t.keys.Nodup) (hu : u.keys.Nodup)
    (hv : v.keys.Nodup) :
    (∀ key a, IsMap (t.insert key a) (if key ∈ t.keys then t.keys else t.keys ++ [key])
      fun k => if k = key then some a else t.get? k) ∧
    (∀ key, IsMap (t.erase key) (t.keys.filter (· ≠ key))
      fun k => if k = key then none else t.get? k) ∧
    IsMap (t.merge u) (t.keys ++ u.keys.filter (· ∉ t.keys))
      (fun k => if k ∈ u.keys then u.get? k else t.get? k) ∧
    (∀ es : List (String × α),
      IsMap (ofEntries es) (es.map Prod.fst).eraseDups (es.reverse.lookup ·)) ∧
    ((t.merge u).merge v).entries = (t.merge (u.merge v)).entries ∧
    (t.merge empty).entries = t.entries ∧ (empty.merge t).entries = t.entries ∧
    (t.merge t).entries = t.entries := by
  refine ⟨?_, ?_, ?_, ?_, ?_, ?_, ?_, ?_⟩
  · exact isMap_insert ht
  · exact isMap_erase ht
  · exact isMap_merge ht hu
  · exact isMap_ofEntries
  · exact entries_merge_assoc ht hu hv
  · rfl
  · exact entries_empty_merge ht
  · exact entries_merge_self ht

/-- Three catalogs that overlap pairwise, each in an order of its own. -/
theorem tables_are_ordered_maps_nouns :
    let t : Catalog := ⟨[("noun", ["cat"]), ("verb", ["ran"])]⟩
    let u : Catalog := ⟨[("place", ["barn"]), ("verb", ["sat"])]⟩
    let v : Catalog := ⟨[("name", ["Ann"]), ("place", ["farm"]), ("noun", ["owl"])]⟩
    t.keys.Nodup ∧ u.keys.Nodup ∧ v.keys.Nodup ∧
    IsMap (t.insert "noun" ["dog"]) ["noun", "verb"]
      (fun k => if k = "noun" then some ["dog"] else t.get? k) ∧
    IsMap (t.erase "noun") ["verb"] (fun k => if k = "noun" then none else t.get? k) ∧
    IsMap (t.merge u) ["noun", "verb", "place"]
      (fun k => if k ∈ u.keys then u.get? k else t.get? k) ∧
    IsMap (ofEntries (t.entries ++ u.entries)) ["noun", "verb", "place"]
      ((t.entries ++ u.entries).reverse.lookup ·) ∧
    ((t.merge u).merge v).entries = (t.merge (u.merge v)).entries ∧
    ((t.merge u).merge v).entries =
      [("noun", ["owl"]), ("verb", ["sat"]), ("place", ["farm"]), ("name", ["Ann"])] ∧
    (empty.merge t).entries = t.entries ∧ (t.merge t).entries = t.entries := by
  intro t u v
  have ht : t.keys.Nodup := by decide
  have hu : u.keys.Nodup := by decide
  have hv : v.keys.Nodup := by decide
  obtain ⟨hinsert, herase, hmerge, hentries, hassoc, -, hempty, hself⟩ :=
    tables_are_ordered_maps ht hu hv
  exact ⟨ht, hu, hv, hinsert "noun" ["dog"], herase "noun", hmerge, hentries _, hassoc, by decide,
    hempty, hself⟩

end ProseScript.Table
