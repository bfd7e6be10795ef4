import ProseScript.Proofs.Sampling
import ProseScript.Proofs.Store.Assignment

/-!
Selections. Main statement: a selection gives items of a list, entries of a catalog or members of a
group, none of them twice, as many as its amount comes to unless there are fewer.
-/

namespace ProseScript.Expression

open Sampling

/-- What a selection of a style may take from a variable: different items, whole entries or
members. -/
inductive Selected (count : Nat) : Style → View → Value → Prop
  | list {items xs : List String} (h : Drawn items (min count items.dedup.length) xs) :
      Selected count .list (.list items) (.list xs)
  | catalog {entries drawn : Catalog}
      (h : Drawn entries.entries (min count entries.entries.dedup.length) drawn.entries) :
      Selected count .catalog (.catalog entries) (.catalog drawn)
  | group {g : Group} {members : List Entity}
      (h : Drawn g.members (min count g.members.dedup.length) members) :
      Selected count .group (.group g) (.group members)

/-- Entries drawn from distinct keys have distinct keys, so that they make up a catalog as they
are. -/
theorem entries_ofEntries_of_drawn {entries : Catalog} (hkeys : entries.keys.Nodup) {n : Nat}
    {es : List (String × List String)} (h : Drawn entries.entries n es) :
    (Table.ofEntries es).entries = es := by
  refine Table.entries_ofEntries (List.Nodup.map_on ?_ h.nodup)
  intro e he e' he' heq
  exact List.inj_on_of_nodup_map hkeys (h.mem e he) (h.mem e' he') heq

section Select

variable {style : Style} {count : Nat} {view : View} {c c' : Chance} {v : Value}

theorem selected_of_sample (hkeys : ∀ entries, view = .catalog entries → entries.keys.Nodup)
    (h : sample style count view c = (some v, c')) : Selected count style view v := by
  unfold sample at h
  split at h
  · next items =>
    obtain rfl := Option.some.inj (Prod.mk.inj h).1
    exact .list (drawn_unique_all items count c)
  · next entries =>
    obtain rfl := Option.some.inj (Prod.mk.inj h).1
    have hdrawn := drawn_unique_all entries.entries count c
    have hentries := entries_ofEntries_of_drawn (hkeys entries rfl) hdrawn
    exact .catalog (hentries.symm ▸ hdrawn)
  · next g =>
    obtain rfl := Option.some.inj (Prod.mk.inj h).1
    exact .group (drawn_unique_all g.members count c)
  · simp at h

theorem exists_sample (hstyle : selects style = true) (hkind : view.kind = selectedKind style)
    (count : Nat) (c : Chance) : ∃ v c', sample style count view c = (some v, c') := by
  cases style with
  | list =>
    cases view with
    | list items => exact ⟨_, _, rfl⟩
    | _ => cases hkind
  | catalog =>
    cases view with
    | catalog entries => exact ⟨_, _, rfl⟩
    | _ => cases hkind
  | group =>
    cases view with
    | group g => exact ⟨_, _, rfl⟩
    | _ => cases hkind
  | _ => cases hstyle

variable {name : String} {amount : Amount} {l : Line} {s : Store}

/-- A selection draws its amount and then samples the variable it names. -/
theorem select_eq_ok_iff : select style name amount l s c = (.ok v, c') ↔
    (amount.resolve c).1 ≠ 0 ∧ ∃ view, s.lookup name .all = some view ∧
      sample style (amount.resolve c).1 view (amount.resolve c).2 = (some v, c') := by
  unfold select viewOf
  by_cases hcount : (amount.resolve c).1 = 0
  · simp [hcount]
  · cases hview : s.lookup name .all with
    | none => simp [hcount]
    | some view =>
      simp only [hcount, if_false, ne_eq, not_false_eq_true, true_and, Option.some.injEq,
        exists_eq_left']
      rcases sample style (amount.resolve c).1 view (amount.resolve c).2 with ⟨_ | value, after⟩
      · simp
      · simp

theorem evaluate_of_selection {rhs : String} (hstyle : selects style = true)
    (h : selection? rhs = some (name, amount)) :
    evaluate style rhs l s c = select style name amount l s c := by
  simp only [evaluate, hstyle, if_true, h]

end Select

/-- A sample holds different items that are not excluded, as many as asked for or else all of them.
So a selection takes items of a list, entries of a catalog or members of a group, none twice and as
many as its amount comes to or else all; and it succeeds for every amount but zero if the variable is
of its kind. -/
theorem selections_are_samples :
    (∀ (α : Type) [DecidableEq α] (source : List α) (count : Nat) (exclude : List α) (c : Chance),
      Drawn (source.filter (· ∉ exclude)) (min count (source.filter (· ∉ exclude)).dedup.length)
        (unique source count exclude c).1) ∧
    ∀ (style : Style) (rhs name : String) (amount : Amount) (l : Line) (s : Store) (c : Chance),
      selects style = true → selection? rhs = some (name, amount) → s.Keyed →
      (∀ v c', evaluate style rhs l s c = (.ok v, c') →
        ∃ view, s.lookup name .all = some view ∧ Selected (amount.resolve c).1 style view v) ∧
      (∀ view, s.lookup name .all = some view → view.kind = selectedKind style →
        (amount.resolve c).1 ≠ 0 → ∃ v c', evaluate style rhs l s c = (.ok v, c')) := by
  refine ⟨fun α _ source count exclude c => drawn_unique source count exclude c, ?_⟩
  intro style rhs name amount l s c hstyle hrhs hs
  rw [evaluate_of_selection hstyle hrhs]
  refine ⟨?_, ?_⟩
  · intro v c' hv
    obtain ⟨-, view, hview, hsample⟩ := select_eq_ok_iff.1 hv
    refine ⟨view, hview, selected_of_sample ?_ hsample⟩
    rintro entries rfl
    exact hs.nodup_of_lookup hview
  · intro view hview hkind hcount
    obtain ⟨v, c', hsample⟩ := exists_sample hstyle hkind (amount.resolve c).1 (amount.resolve c).2
    exact ⟨v, c', select_eq_ok_iff.2 ⟨hcount, view, hview, hsample⟩⟩

/-- Three entries asked for of a folder of two. -/
theorem selections_are_samples_folder :
    let words : Catalog := ⟨[("noun", ["cat"]), ("verb", ["ran"])]⟩
    let s := (Store.ofFolders words .empty).setAlias "wfolder" .words
    let l := Line.ofText 1 "ASSIGNCATALOG some = wfolder 3"
    s.Keyed ∧ selection? "wfolder 3" = some ("wfolder", .count 3) ∧
    ∃ v c c', evaluate .catalog "wfolder 3" l s c = (.ok v, c') ∧
      Selected 3 .catalog (.catalog words) v := by
  intro words s l
  have hkeyed : s.Keyed := by
    refine ⟨by decide, by decide, ?_⟩
    intro name entries h
    cases h
  have hrhs : selection? "wfolder 3" = some ("wfolder", .count 3) := by decide +kernel
  have hlower : Text.lower "wfolder" = "wfolder" := by decide +kernel
  have hslot : s.locate "wfolder" .all = some (.vocabulary .words) := by decide +kernel
  have hfolder : s.lookup "wfolder" .all = some (.catalog words) := by
    simp only [Store.lookup, hlower, hslot]
    rfl
  let c : Chance := ⟨fun _ => 0, 0⟩
  obtain ⟨hselected, hok⟩ := selections_are_samples.2 .catalog "wfolder 3" "wfolder" (.count 3) l s c
    rfl hrhs hkeyed
  obtain ⟨v, c', hv⟩ := hok _ hfolder rfl (by decide)
  obtain ⟨view, hview, hdrawn⟩ := hselected v c' hv
  obtain rfl : View.catalog words = view := Option.some.inj (hfolder.symm.trans hview)
  exact ⟨hkeyed, hrhs, v, c, c', hv, hdrawn⟩

end ProseScript.Expression
