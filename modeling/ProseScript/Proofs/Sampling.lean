import Mathlib.Data.Finset.Card
import Mathlib.Data.List.Perm.Basic
import ProseScript.Sampling

/-!
Samples without repetition. Main statement: whatever is drawn, a sample holds different items that
are not excluded, as many as were asked for unless fewer are left.
-/

namespace ProseScript.Sampling

open scoped List

variable {α : Type}

/-- A number of different items of a source. -/
structure Drawn (source : List α) (n : Nat) (xs : List α) : Prop where
  nodup : xs.Nodup
  mem : ∀ x ∈ xs, x ∈ source
  length : xs.length = n

theorem Drawn.nil (source : List α) : Drawn source 0 [] :=
  ⟨List.nodup_nil, by simp, rfl⟩

/-- The item taken out and those left are the whole pool. -/
theorem swapRemove_perm {pool : List α} {i : Nat} {x : α} (h : pool[i]? = some x) :
    x :: swapRemove pool i ~ pool := by
  obtain rfl | ⟨front, last, rfl⟩ := List.eq_nil_or_concat' pool
  · simp at h
  have hrest : swapRemove (front ++ [last]) i = ((front ++ [last]).set i last).dropLast := by
    simp [swapRemove]
  rw [hrest]
  rcases lt_or_ge i front.length with hi | hi
  · -- The last item takes the place of the one taken out.
    obtain rfl : front[i] = x := by simpa [List.getElem?_append_left hi, hi] using h
    rw [List.set_append_left i last hi, List.dropLast_concat]
    calc front[i] :: front.set i last
      _ ~ front[i] :: last :: front.eraseIdx i := (List.set_perm_cons_eraseIdx hi last).cons _
      _ ~ last :: front[i] :: front.eraseIdx i := .swap ..
      _ ~ last :: front := (List.getElem_cons_eraseIdx_perm hi).cons _
      _ ~ front ++ [last] := (List.perm_append_singleton last front).symm
  · have hlt : i < (front ++ [last]).length := (List.getElem?_eq_some_iff.1 h).1
    obtain rfl : i = front.length := by
      rw [List.length_append, List.length_singleton] at hlt
      omega
    obtain rfl : last = x := by simpa using h
    simpa using (List.perm_append_singleton last front).symm

/-- The draw of a place in a pool falls on an item. -/
theorem exists_getElem?_uniform {pool : List α} (h : pool ≠ []) (c : Chance) :
    ∃ x, pool[(c.uniform .long 0 (pool.length - 1)).1]? = some x := by
  have hpos : 0 < pool.length := List.length_pos_iff.2 h
  have hdraw := (Chance.uniform_mem .long (Nat.zero_le (pool.length - 1)) c).2
  exact ⟨_, List.getElem?_eq_getElem (by omega)⟩

variable [DecidableEq α]

/-- What is left to draw from after an item has been drawn. -/
theorem mem_rest_iff {pool : List α} {i : Nat} {x y : α} (h : pool[i]? = some x) :
    y ∈ (swapRemove pool i).filter (· ≠ x) ↔ y ∈ pool ∧ y ≠ x := by
  rw [← (swapRemove_perm h).mem_iff]
  by_cases hy : y = x
  · simp [hy]
  · simp [hy]

/-- Each draw uses up one of the different items of the pool. -/
theorem length_dedup_rest {pool : List α} {i : Nat} {x : α} (h : pool[i]? = some x) :
    ((swapRemove pool i).filter (· ≠ x)).dedup.length + 1 = pool.dedup.length := by
  have hx : x ∈ pool.toFinset := List.mem_toFinset.2 (List.mem_of_getElem? h)
  have hrest : ((swapRemove pool i).filter (· ≠ x)).toFinset = pool.toFinset.erase x := by
    ext y
    rw [List.mem_toFinset, mem_rest_iff h, Finset.mem_erase, List.mem_toFinset, and_comm]
  rw [← List.card_toFinset, ← List.card_toFinset, hrest]
  exact Finset.card_erase_add_one hx

theorem Drawn.cons {pool xs : List α} {i n : Nat} {x : α} (h : pool[i]? = some x)
    (hxs : Drawn ((swapRemove pool i).filter (· ≠ x)) n xs) : Drawn pool (n + 1) (x :: xs) where
  nodup := List.nodup_cons.2 ⟨fun hx => ((mem_rest_iff h).1 (hxs.mem x hx)).2 rfl, hxs.nodup⟩
  mem := by
    intro y hy
    rcases List.mem_cons.1 hy with rfl | hy
    · exact List.mem_of_getElem? h
    · exact ((mem_rest_iff h).1 (hxs.mem y hy)).1
  length := by rw [List.length_cons, hxs.length]

theorem drawn_takeFrom (count : Nat) (pool : List α) (c : Chance) :
    Drawn pool (min count pool.dedup.length) (takeFrom count pool c).1 := by
  induction count generalizing pool c with
  | zero => simpa [takeFrom] using Drawn.nil pool
  | succ count ih =>
    by_cases hpool : pool = []
    · simpa [takeFrom, hpool] using Drawn.nil ([] : List α)
    · obtain ⟨x, hx⟩ := exists_getElem?_uniform hpool c
      have hrest := length_dedup_rest hx
      have hmin : min (count + 1) pool.dedup.length = min count (pool.dedup.length - 1) + 1 := by
        omega
      have hempty : pool.isEmpty = false := by simpa using hpool
      simp only [takeFrom, hempty, Bool.false_eq_true, if_false, hx]
      rw [hmin, ← hrest, Nat.add_sub_cancel]
      exact (ih _ _).cons hx

/-- Sampling draws from what is not excluded. -/
theorem drawn_unique (source : List α) (count : Nat) (exclude : List α) (c : Chance) :
    Drawn (source.filter (· ∉ exclude)) (min count (source.filter (· ∉ exclude)).dedup.length)
      (unique source count exclude c).1 := by
  have havailable : source.filter (· ∉ exclude) = available source exclude := by
    simp [available]
  rw [havailable]
  exact drawn_takeFrom count (available source exclude) c

theorem drawn_unique_all (source : List α) (count : Nat) (c : Chance) :
    Drawn source (min count source.dedup.length) (unique source count [] c).1 := by
  simpa using drawn_unique source count [] c

theorem mem_available_iff {source exclude : List α} {x : α} :
    x ∈ available source exclude ↔ x ∈ source ∧ x ∉ exclude := by
  simp [available]

theorem mem_of_one {source exclude : List α} {c : Chance} {x : α}
    (h : (one source exclude c).1 = some x) : x ∈ source ∧ x ∉ exclude :=
  mem_available_iff.1 (Chance.mem_of_choose (Prod.ext h rfl))

/-- No item is drawn only where all are excluded. -/
theorem one_eq_none_iff {source exclude : List α} {c : Chance} :
    (one source exclude c).1 = none ↔ ∀ x ∈ source, x ∈ exclude := by
  rw [one, Chance.choose_eq_none_iff, List.eq_nil_iff_forall_not_mem]
  simp only [mem_available_iff, not_and, not_not]

/-- Taking some items away leaves so many different items fewer. -/
theorem length_dedup_filter_not_mem {source taken : List α} (hnodup : taken.Nodup)
    (htaken : ∀ x ∈ taken, x ∈ source) :
    (source.filter (· ∉ taken)).dedup.length = source.dedup.length - taken.length := by
  have hleft : (source.filter (· ∉ taken)).toFinset = source.toFinset \ taken.toFinset := by
    ext x
    simp
  have hsubset : taken.toFinset ⊆ source.toFinset := by
    intro x hx
    exact List.mem_toFinset.2 (htaken x (List.mem_toFinset.1 hx))
  rw [← List.card_toFinset, hleft, Finset.card_sdiff_of_subset hsubset, List.card_toFinset,
    List.toFinset_card_of_nodup hnodup]

/-- Samples of one source in a row. When they are to be distinct, each leaves out what the earlier
ones took. -/
inductive Dealt (source : List α) (count : Nat) (distinct : Bool) : List α → List (List α) → Prop
  | nil (taken : List α) : Dealt source count distinct taken []
  | cons {taken xs : List α} {lists : List (List α)}
      (hxs : Drawn (source.filter (· ∉ taken))
        (min count (source.filter (· ∉ taken)).dedup.length) xs)
      (hrest : Dealt source count distinct (if distinct then taken ++ xs else taken) lists) :
      Dealt source count distinct taken (xs :: lists)

section Dealt

variable {source taken : List α} {count : Nat} {lists : List (List α)}

theorem Dealt.each (h : Dealt source count false taken lists) :
    ∀ xs ∈ lists, Drawn (source.filter (· ∉ taken))
      (min count (source.filter (· ∉ taken)).dedup.length) xs := by
  induction h with
  | nil taken => simp
  | cons hxs _ ih => exact List.forall_mem_cons.2 ⟨hxs, ih⟩

/-- What distinct samples have taken once `k` of them are drawn: all they asked for, or else every
item there is. -/
structure Taken (source : List α) (count k : Nat) (taken : List α) : Prop where
  nodup : taken.Nodup
  mem : ∀ x ∈ taken, x ∈ source
  length : taken.length = min source.dedup.length (k * count)

theorem Taken.nil (source : List α) (count : Nat) : Taken source count 0 [] :=
  ⟨List.nodup_nil, by simp, by simp⟩

theorem Taken.left {k : Nat} (h : Taken source count k taken) :
    (source.filter (· ∉ taken)).dedup.length =
      source.dedup.length - min source.dedup.length (k * count) := by
  rw [length_dedup_filter_not_mem h.nodup h.mem, h.length]

theorem Taken.append {k : Nat} (h : Taken source count k taken) {xs : List α}
    (hxs : Drawn (source.filter (· ∉ taken))
      (min count (source.filter (· ∉ taken)).dedup.length) xs) :
    Taken source count (k + 1) (taken ++ xs) where
  nodup := by
    refine h.nodup.append hxs.nodup ?_
    intro x hx hx'
    simpa [hx] using hxs.mem x hx'
  mem := by
    intro x hx
    rcases List.mem_append.1 hx with hx | hx
    · exact h.mem x hx
    · exact (List.mem_filter.1 (hxs.mem x hx)).1
  length := by
    rw [List.length_append, h.length, hxs.length, h.left, Nat.succ_mul]
    omega

/-- Distinct samples share nothing with one another or with what was taken before them, and each is
as large as what is left allows. -/
theorem Dealt.apart {k : Nat} (h : Dealt source count true taken lists)
    (htaken : Taken source count k taken) :
    (∀ xs ∈ lists, List.Disjoint taken xs) ∧ lists.Pairwise List.Disjoint ∧
    ∀ i xs, lists[i]? = some xs → Drawn source
      (min count (source.dedup.length - min source.dedup.length ((k + i) * count))) xs := by
  induction h generalizing k with
  | nil taken => simp
  | @cons taken xs lists hxs _ ih =>
    obtain ⟨hafter, hapart, hsizes⟩ := ih (htaken.append hxs)
    have hfirst : List.Disjoint taken xs := by
      intro x hx hx'
      simpa [hx] using hxs.mem x hx'
    refine ⟨List.forall_mem_cons.2 ⟨hfirst, ?_⟩, List.pairwise_cons.2 ⟨?_, hapart⟩, ?_⟩
    · intro ys hys x hx
      exact hafter ys hys (List.mem_append_left xs hx)
    · intro ys hys x hx
      exact hafter ys hys (List.mem_append_right taken hx)
    · intro i ys hys
      cases i with
      | zero =>
        obtain rfl : xs = ys := by simpa using hys
        refine ⟨hxs.nodup, fun x hx => (List.mem_filter.1 (hxs.mem x hx)).1, ?_⟩
        rw [hxs.length, htaken.left, Nat.add_zero]
      | succ i =>
        have hsize := hsizes i ys (by simpa using hys)
        rwa [show k + 1 + i = k + (i + 1) by omega] at hsize

end Dealt

end ProseScript.Sampling
