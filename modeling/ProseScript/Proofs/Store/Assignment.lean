import ProseScript.Expression
import ProseScript.Proofs.Store.Valid

/-!
Values of expressions. Main statement: a catalog is built up by insertions and erasures alone, so
that whatever an expression evaluates to may be stored.
-/

namespace ProseScript

namespace Expression

/-- What both signs keep, a whole sum keeps. -/
theorem combine_induction {α β : Type} {resolve : String → Except Fault β} {plus minus : α → β → α}
    {P : α → Prop} (hplus : ∀ a b, P a → P (plus a b)) (hminus : ∀ a b, P a → P (minus a b))
    {acc result : α} {ts : List (Sign × String)} (hacc : P acc)
    (h : combine resolve plus minus acc ts = .ok result) : P result := by
  induction ts generalizing acc with
  | nil => exact Except.ok.inj h ▸ hacc
  | cons t rest ih =>
    obtain ⟨sign, term⟩ := t
    simp only [combine] at h
    split at h
    · simp at h
    · next b _ =>
      split at h
      · exact ih (hplus acc b hacc) h
      · exact ih (hminus acc b hacc) h

theorem nodup_catalogSum {rhs : String} {l : Line} {s : Store} {entries : Catalog}
    (h : catalogSum rhs l s = .ok entries) : entries.keys.Nodup :=
  combine_induction (P := fun t : Catalog => t.keys.Nodup) (fun _ u ht => Table.nodup_merge ht u)
    (fun _ u ht => Table.nodup_eraseAll ht u.keys) Table.nodup_empty h

theorem sound_sample {style : Style} {count : Nat} {view : View} {c c' : Chance} {v : Value}
    (h : sample style count view c = (some v, c')) : v.Sound := by
  intro entries hentries
  subst hentries
  unfold sample at h
  split at h
  · simp at h
  · obtain ⟨hvalue, -⟩ := Prod.mk.inj h
    have hcatalog := Value.catalog.inj (Option.some.inj hvalue)
    exact hcatalog ▸ Table.nodup_ofEntries _
  · simp at h
  · simp at h

theorem sample_of_select {style : Style} {name : String} {amount : Amount} {l : Line} {s : Store}
    {c c' : Chance} {v : Value} (h : select style name amount l s c = (.ok v, c')) :
    ∃ count view before after, sample style count view before = (some v, after) := by
  unfold select at h
  simp only at h
  split at h
  · simp at h
  split at h
  · simp at h
  split at h
  · next value after hsample =>
    have hv : value = v := Except.ok.inj (Prod.mk.inj h).1
    exact ⟨_, _, _, after, hv ▸ hsample⟩
  · simp at h

theorem sound_map_list {x : Except Fault (List String)} {v : Value} (h : x.map .list = .ok v) :
    v.Sound := by
  obtain ⟨items, -, hv⟩ := Fault.map_eq_ok_iff.1 h
  exact hv ▸ Value.sound_list items

theorem sound_evaluateFixed {style : Style} {rhs : String} {l : Line} {s : Store} {v : Value}
    (h : evaluateFixed style rhs l s = .ok v) : v.Sound := by
  cases style with
  | catalog =>
    obtain ⟨sum, hsum, rfl⟩ := Fault.map_eq_ok_iff.1 h
    intro entries hentries
    exact Value.catalog.inj hentries ▸ nodup_catalogSum hsum
  | group =>
    obtain ⟨members, -, rfl⟩ := Fault.map_eq_ok_iff.1 h
    exact Value.sound_group members
  | list => exact sound_map_list h
  | join => exact sound_map_list h
  | upper => exact sound_map_list h
  | lower => exact sound_map_list h
  | upperFirst => exact sound_map_list h
  | lowerFirst => exact sound_map_list h

/-- Every value of a right-hand side may be stored. -/
theorem sound_evaluate {style : Style} {rhs : String} {l : Line} {s : Store} {c c' : Chance}
    {v : Value} (h : evaluate style rhs l s c = (.ok v, c')) : v.Sound := by
  unfold evaluate at h
  split at h
  · obtain ⟨_, _, _, _, hsample⟩ := sample_of_select h
    exact sound_sample hsample
  · exact sound_evaluateFixed (Prod.mk.inj h).1

/-- A right-hand side that selects nothing at random takes no draw. -/
theorem evaluate_of_not_selection {style : Style} {rhs : String}
    (h : selects style = true → selection? rhs = none) (l : Line) (s : Store) (c : Chance) :
    evaluate style rhs l s c = (evaluateFixed style rhs l s, c) := by
  unfold evaluate
  by_cases hstyle : selects style = true
  · rw [if_pos hstyle, h hstyle]
  · rw [if_neg hstyle]

theorem kind_sample {style : Style} {count : Nat} {view : View} {c c' : Chance} {v : Value}
    (h : sample style count view c = (some v, c')) : v.kind = selectedKind style := by
  unfold sample at h
  split at h
  · obtain ⟨hvalue, -⟩ := Prod.mk.inj h
    exact Option.some.inj hvalue ▸ rfl
  · obtain ⟨hvalue, -⟩ := Prod.mk.inj h
    exact Option.some.inj hvalue ▸ rfl
  · obtain ⟨hvalue, -⟩ := Prod.mk.inj h
    exact Option.some.inj hvalue ▸ rfl
  · simp at h

theorem kind_evaluateFixed {style : Style} {rhs : String} {l : Line} {s : Store} {v : Value}
    (h : evaluateFixed style rhs l s = .ok v) : v.kind = selectedKind style := by
  cases style <;>
    · obtain ⟨_, -, rfl⟩ := Fault.map_eq_ok_iff.1 h
      rfl

/-- The kind of value that a right-hand side gives depends on the style only. -/
theorem kind_evaluate {style : Style} {rhs : String} {l : Line} {s : Store} {c c' : Chance}
    {v : Value} (h : evaluate style rhs l s c = (.ok v, c')) : v.kind = selectedKind style := by
  unfold evaluate at h
  split at h
  · obtain ⟨_, _, _, _, hsample⟩ := sample_of_select h
    exact kind_sample hsample
  · exact kind_evaluateFixed (Prod.mk.inj h).1

/-- An assignment whose value has a fault stores nothing. -/
theorem assign_of_evaluate_error {style : Style} {lhs rhs : String} {l : Line} {s : Store}
    {c c' : Chance} {f : Fault} (hline : splitAssignment l.params = some (lhs, rhs))
    (h : evaluate style rhs l s c = (.error f, c')) : assign style l s c = ((s, some f), c') := by
  simp [assign, hline, h]

end Expression

end ProseScript
