import Mathlib.Data.List.Induction
import Mathlib.Data.List.Nodup

/-!
What a list holds, each item once and in the order in which the items first occur. Main statement:
leaving out repetitions gives just this.
-/

namespace ProseScript

variable {α : Type} [DecidableEq α]

/-- `ys` holds the items of `xs`, each once, in the order in which they first occur there. -/
structure FirstOccurrences (xs ys : List α) : Prop where
  nodup : ys.Nodup
  mem_iff : ∀ x, x ∈ ys ↔ x ∈ xs
  in_order : ys.Pairwise fun x y => xs.idxOf x < xs.idxOf y

namespace FirstOccurrences

variable {xs ys : List α}

theorem nil : FirstOccurrences ([] : List α) [] where
  nodup := List.nodup_nil
  mem_iff := fun _ => Iff.rfl
  in_order := .nil

/-- Items that follow do not move the places at which earlier items first occur. -/
theorem in_order_append (h : FirstOccurrences xs ys) (zs : List α) :
    ys.Pairwise fun x y => (xs ++ zs).idxOf x < (xs ++ zs).idxOf y := by
  refine h.in_order.imp_of_mem ?_
  intro x y hx hy hlt
  rwa [List.idxOf_append_of_mem ((h.mem_iff x).1 hx), List.idxOf_append_of_mem ((h.mem_iff y).1 hy)]

/-- An item that occurs again changes nothing. -/
theorem again (h : FirstOccurrences xs ys) {x : α} (hx : x ∈ ys) :
    FirstOccurrences (xs ++ [x]) ys where
  nodup := h.nodup
  mem_iff y := by
    have hin : x ∈ xs := (h.mem_iff x).1 hx
    rw [h.mem_iff y, List.mem_append, List.mem_singleton]
    exact ⟨.inl, fun hy => hy.elim id fun heq => heq ▸ hin⟩
  in_order := h.in_order_append [x]

/-- An item that occurs for the first time goes to the end. -/
theorem first (h : FirstOccurrences xs ys) {x : α} (hx : x ∉ ys) :
    FirstOccurrences (xs ++ [x]) (ys ++ [x]) where
  nodup := by
    rw [← List.concat_eq_append]
    exact h.nodup.concat hx
  mem_iff y := by rw [List.mem_append, List.mem_append, h.mem_iff y]
  in_order := by
    have hnew : x ∉ xs := mt (h.mem_iff x).2 hx
    refine List.pairwise_append.2 ⟨h.in_order_append [x], List.pairwise_singleton _ x, ?_⟩
    intro y hy z hz
    obtain rfl := List.mem_singleton.1 hz
    have hin : y ∈ xs := (h.mem_iff y).1 hy
    rw [List.idxOf_append_of_mem hin, List.idxOf_append_of_notMem hnew]
    have hbelow := List.idxOf_lt_length_of_mem hin
    omega

theorem concat (h : FirstOccurrences xs ys) (x : α) :
    FirstOccurrences (xs ++ [x]) (if x ∈ ys then ys else ys ++ [x]) := by
  split
  · next hx => exact h.again hx
  · next hx => exact h.first hx

end FirstOccurrences

theorem eraseDups_concat (xs : List α) (x : α) :
    (xs ++ [x]).eraseDups = if x ∈ xs.eraseDups then xs.eraseDups else xs.eraseDups ++ [x] := by
  rw [List.eraseDups_append]
  by_cases hx : x ∈ xs <;> simp [List.removeAll, List.eraseDups_cons, hx]

theorem eraseDups_of_nodup {xs : List α} (h : xs.Nodup) : xs.eraseDups = xs := by
  induction xs using List.reverseRecOn with
  | nil => rfl
  | append_singleton xs x ih =>
    obtain ⟨hxs, -, hapart⟩ := List.nodup_append.1 h
    have hnew : x ∉ xs := fun hx => hapart x hx x (List.mem_singleton_self x) rfl
    rw [eraseDups_concat, ih hxs, if_neg hnew]

theorem firstOccurrences_eraseDups (xs : List α) : FirstOccurrences xs xs.eraseDups := by
  induction xs using List.reverseRecOn with
  | nil => exact .nil
  | append_singleton xs x ih =>
    rw [eraseDups_concat]
    exact ih.concat x

end ProseScript
