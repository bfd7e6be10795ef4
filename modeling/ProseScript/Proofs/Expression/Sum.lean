import Mathlib.Data.List.DropRight
import Mathlib.Data.List.Forall2
import ProseScript.Proofs.Expression.Operands
import ProseScript.Proofs.Store.Assignment

/-!
Sums of lists and groups. Main statement: a sum holds the items whose last term adds them, each once
and in the order of their latest arrival; and it fails with the fault of its leftmost bad term.
-/

namespace ProseScript.Expression

section Total

variable {α : Type}

/-- The items of a row of terms, whatever their signs. -/
def row (ts : List (Sign × List α)) : List α := ts.flatMap Prod.snd

@[simp] theorem row_nil : row ([] : List (Sign × List α)) = [] := rfl

@[simp] theorem row_append (ts us : List (Sign × List α)) : row (ts ++ us) = row ts ++ row us := by
  simp [row]

@[simp] theorem row_singleton (t : Sign × List α) : row [t] = t.2 := by
  simp [row]

variable [DecidableEq α]

/-- A term that takes an item away. -/
def takes (x : α) (t : Sign × List α) : Bool := t.1 = .minus ∧ x ∈ t.2

/-- The terms up to the last one that takes an item away. -/
def upToTaking (x : α) (ts : List (Sign × List α)) : List (Sign × List α) :=
  ts.rdropWhile (!takes x ·)

/-- The terms after the last one that takes an item away. -/
def sinceTaking (x : α) (ts : List (Sign × List α)) : List (Sign × List α) :=
  ts.rtakeWhile (!takes x ·)

/-- The place, in the row of all items, of the first occurrence of an item after the last term that
takes it away. -/
def position (ts : List (Sign × List α)) (x : α) : Nat :=
  (row (upToTaking x ts)).length + (row (sinceTaking x ts)).idxOf x

/-- What the items of signed terms come to: each of those that the last term with them adds, once
and in the order of their places. -/
structure IsSum (ts : List (Sign × List α)) (sum : List α) : Prop where
  nodup : sum.Nodup
  mem_iff : ∀ x, x ∈ sum ↔ ((ts.filter (x ∈ ·.2)).getLast?).map Prod.fst = some .plus
  ordered : sum.Pairwise fun x y => position ts x < position ts y

/-- The terms taken together from left to right. -/
def total (ts : List (Sign × List α)) : List α :=
  ts.foldl (fun acc t => match t.1 with
    | .plus => union acc t.2
    | .minus => difference acc t.2) []

theorem union_concat (acc items : List α) (x : α) :
    union acc (items ++ [x]) =
      if x ∈ union acc items then union acc items else union acc items ++ [x] := by
  simp [union]

theorem mem_union {acc items : List α} {x : α} : x ∈ union acc items ↔ x ∈ acc ∨ x ∈ items := by
  induction items using List.reverseRecOn with
  | nil => simp [union]
  | append_singleton items y ih =>
    rw [union_concat]
    split <;> grind

theorem mem_difference {acc items : List α} {x : α} :
    x ∈ difference acc items ↔ x ∈ acc ∧ x ∉ items := by
  simp [difference]

theorem total_plus (ts : List (Sign × List α)) (items : List α) :
    total (ts ++ [(.plus, items)]) = union (total ts) items := by
  simp [total]

theorem total_minus (ts : List (Sign × List α)) (items : List α) :
    total (ts ++ [(.minus, items)]) = difference (total ts) items := by
  simp [total]

theorem upToTaking_concat (x : α) (ts : List (Sign × List α)) (t : Sign × List α) :
    upToTaking x (ts ++ [t]) = if takes x t then ts ++ [t] else upToTaking x ts := by
  rw [upToTaking, List.rdropWhile_concat]
  cases takes x t <;> rfl

theorem sinceTaking_concat (x : α) (ts : List (Sign × List α)) (t : Sign × List α) :
    sinceTaking x (ts ++ [t]) = if takes x t then [] else sinceTaking x ts ++ [t] := by
  rw [sinceTaking, List.rtakeWhile_concat]
  cases takes x t <;> rfl

/-- The items of a sum are those that occur after the last term that takes them away. -/
theorem mem_total_iff {ts : List (Sign × List α)} {x : α} :
    x ∈ total ts ↔ x ∈ row (sinceTaking x ts) := by
  induction ts using List.reverseRecOn with
  | nil => simp [total, sinceTaking]
  | append_singleton ts t ih =>
    obtain ⟨sign, items⟩ := t
    rw [sinceTaking_concat]
    cases sign with
    | plus => simp [takes, total_plus, mem_union, ih]
    | minus =>
      by_cases hx : x ∈ items
      · simp [takes, total_minus, mem_difference, hx]
      · simp [takes, total_minus, mem_difference, hx, ih]

theorem mem_total_iff_last {ts : List (Sign × List α)} {x : α} :
    x ∈ total ts ↔ ((ts.filter (x ∈ ·.2)).getLast?).map Prod.fst = some .plus := by
  induction ts using List.reverseRecOn with
  | nil => simp [total]
  | append_singleton ts t ih =>
    obtain ⟨sign, items⟩ := t
    by_cases hx : x ∈ items
    · cases sign with
      | plus => simp [total_plus, mem_union, hx]
      | minus => simp [total_minus, mem_difference, hx]
    · cases sign with
      | plus => simp [total_plus, mem_union, hx, ih]
      | minus => simp [total_minus, mem_difference, hx, ih]

section Position

variable {ts : List (Sign × List α)} {x : α}

theorem length_row_parts (ts : List (Sign × List α)) (x : α) :
    (row (upToTaking x ts)).length + (row (sinceTaking x ts)).length = (row ts).length := by
  rw [← List.length_append, ← row_append, upToTaking, sinceTaking,
    List.rdropWhile_append_rtakeWhile]

theorem position_lt (hx : x ∈ total ts) : position ts x < (row ts).length := by
  have hafter := List.idxOf_lt_length_iff.2 (mem_total_iff.1 hx)
  have hparts := length_row_parts ts x
  unfold position
  omega

/-- A term that does not take an item away leaves it where it was. -/
theorem position_concat_of_mem (hx : x ∈ total ts) {t : Sign × List α} (ht : takes x t = false) :
    position (ts ++ [t]) x = position ts x := by
  have hsince : (row (sinceTaking x ts) ++ t.2).idxOf x = (row (sinceTaking x ts)).idxOf x :=
    List.idxOf_append_of_mem (mem_total_iff.1 hx)
  simp [position, upToTaking_concat, sinceTaking_concat, ht, hsince]

/-- An added item that was not there comes after all that stood before. -/
theorem position_plus_of_not_mem (hx : x ∉ total ts) (items : List α) :
    position (ts ++ [(.plus, items)]) x = (row ts).length + items.idxOf x := by
  have hkept : takes x (Sign.plus, items) = false := by simp [takes]
  have hsince : (row (sinceTaking x ts) ++ items).idxOf x =
      (row (sinceTaking x ts)).length + items.idxOf x :=
    List.idxOf_append_of_notMem (mt mem_total_iff.2 hx)
  have hparts := length_row_parts ts x
  simp only [position, upToTaking_concat, sinceTaking_concat, hkept, Bool.false_eq_true, if_false,
    row_append, row_singleton, hsince]
  omega

end Position

/-- Items that are appended where they are missing stand in the order of their first occurrences. -/
theorem pairwise_union {acc items : List α} {place : α → Nat} {n : Nat}
    (hacc : acc.Pairwise fun x y => place x < place y) (hold : ∀ x ∈ acc, place x < n)
    (hnew : ∀ x ∈ items, x ∉ acc → place x = n + items.idxOf x) :
    (union acc items).Pairwise fun x y => place x < place y := by
  induction items using List.reverseRecOn with
  | nil => exact hacc
  | append_singleton items y ih =>
    have hitems : ∀ x ∈ items, x ∉ acc → place x = n + items.idxOf x := by
      intro x hx hmissing
      rw [hnew x (List.mem_append_left _ hx) hmissing, List.idxOf_append_of_mem hx]
    rw [union_concat]
    split
    · exact ih hitems
    · next hy =>
      obtain ⟨hyacc, hyitems⟩ := not_or.1 (mt mem_union.2 hy)
      have hplace : place y = n + items.length := by
        rw [hnew y (by simp) hyacc, List.idxOf_append_of_notMem hyitems]
        simp
      refine List.pairwise_append.2 ⟨ih hitems, List.pairwise_singleton _ y, ?_⟩
      intro x hx z hz
      obtain rfl := List.mem_singleton.1 hz
      by_cases hxacc : x ∈ acc
      · have hbefore := hold x hxacc
        omega
      · have hxitems := (mem_union.1 hx).resolve_left hxacc
        have hindex := List.idxOf_lt_length_iff.2 hxitems
        have hbefore := hitems x hxitems hxacc
        omega

theorem pairwise_total (ts : List (Sign × List α)) :
    (total ts).Pairwise fun x y => position ts x < position ts y := by
  induction ts using List.reverseRecOn with
  | nil => exact List.Pairwise.nil
  | append_singleton ts t ih =>
    obtain ⟨sign, items⟩ := t
    cases sign with
    | plus =>
      have hkept : ∀ x ∈ total ts, position (ts ++ [(.plus, items)]) x = position ts x := by
        intro x hx
        exact position_concat_of_mem hx (by simp [takes])
      rw [total_plus]
      refine pairwise_union (n := (row ts).length) ?_ ?_ ?_
      · refine ih.imp_of_mem ?_
        intro x y hx hy hlt
        rwa [hkept x hx, hkept y hy]
      · intro x hx
        rw [hkept x hx]
        exact position_lt hx
      · intro x _ hmissing
        exact position_plus_of_not_mem hmissing items
    | minus =>
      rw [total_minus]
      refine List.Pairwise.imp_of_mem ?_ (ih.filter (!items.contains ·))
      intro x y hx hy hlt
      obtain ⟨hx, hxitems⟩ := mem_difference.1 hx
      obtain ⟨hy, hyitems⟩ := mem_difference.1 hy
      rwa [position_concat_of_mem hx (by simp [takes, hxitems]),
        position_concat_of_mem hy (by simp [takes, hyitems])]

theorem isSum_total (ts : List (Sign × List α)) : IsSum ts (total ts) where
  nodup := (pairwise_total ts).imp fun hlt heq => by simp [heq] at hlt
  mem_iff x := mem_total_iff_last
  ordered := pairwise_total ts

end Total

/-- The items of a list term: a quoted text alone, or those of the list with that name. -/
inductive ListItems (s : Store) (term : String) : List String → Prop
  | literal {text : String} (hquoted : Text.quoted? term = some text) : ListItems s term [text]
  | named {items : List String} (hplain : Text.quoted? term = none)
      (hview : s.lookup term .all = some (.list items)) : ListItems s term items

/-- The items of a group term: the members of the group with that name. -/
inductive GroupItems (s : Store) (term : String) : List Entity → Prop
  | named {g : Group} (hplain : Text.quoted? term = none)
      (hview : s.lookup term .all = some (.group g)) : GroupItems s term g.members

/-- The fault of a term that has no items of a kind: nothing has its name, what has it is of another
kind, or it is a quoted text where only names are allowed. -/
inductive Refused (l : Line) (s : Store) (kind : Kind) (allowed term : String) : Fault → Prop
  | unknown (hplain : Text.quoted? term = none) (hnone : s.lookup term .all = none) :
      Refused l s kind allowed term (.unknownVariable l term)
  | mismatch {view : View} (hplain : Text.quoted? term = none)
      (hview : s.lookup term .all = some view) (hkind : view.kind ≠ kind) :
      Refused l s kind allowed term (.typeMismatch l term allowed view.kind.name)
  | literal {text : String} (hquoted : Text.quoted? term = some text) (hkind : kind ≠ .list) :
      Refused l s kind allowed term (.typeMismatch l term allowed "a string literal")

/-- The fault of the leftmost term without items. -/
def LeftmostFault {α : Type} (Items : String → List α → Prop) (Refusal : String → Fault → Prop)
    (ts : List (Sign × String)) (f : Fault) : Prop :=
  ∃ before sign term after, ts = before ++ (sign, term) :: after ∧
    (∀ t ∈ before, ∃ items, Items t.2 items) ∧ (∀ items, ¬ Items term items) ∧ Refusal term f

section Combine

/-- Terms that all have values come to what these values are combined to. -/
theorem combine_of_resolved {α β : Type} {resolve : String → Except Fault β} {plus minus : α → β → α}
    {ts : List (Sign × String)} {us : List (Sign × β)}
    (h : List.Forall₂ (fun t u => t.1 = u.1 ∧ resolve t.2 = .ok u.2) ts us) (acc : α) :
    combine resolve plus minus acc ts = .ok (us.foldl (fun acc u => match u.1 with
      | .plus => plus acc u.2
      | .minus => minus acc u.2) acc) := by
  induction h generalizing acc with
  | nil => rfl
  | @cons t u ts us hfirst _ ih =>
    obtain ⟨sign, term⟩ := t
    obtain ⟨_, b⟩ := u
    obtain ⟨rfl, hterm⟩ := hfirst
    cases sign with
    | plus => simp only [combine, hterm, List.foldl_cons, ih]
    | minus => simp only [combine, hterm, List.foldl_cons, ih]

variable {α : Type} {resolve : String → Except Fault (List α)} {Items : String → List α → Prop}
  {Refusal : String → Fault → Prop}

theorem combine_of_items [DecidableEq α]
    (hok : ∀ term items, resolve term = .ok items ↔ Items term items)
    {ts : List (Sign × String)} {us : List (Sign × List α)}
    (h : List.Forall₂ (fun t u => t.1 = u.1 ∧ Items t.2 u.2) ts us) :
    combine resolve union difference [] ts = .ok (total us) := by
  refine combine_of_resolved (h.imp ?_) []
  intro t u hterm
  exact ⟨hterm.1, (hok t.2 u.2).2 hterm.2⟩

theorem combine_of_refused {β : Type} {plus minus : β → List α → β}
    (hok : ∀ term items, resolve term = .ok items ↔ Items term items)
    (herror : ∀ term f, resolve term = .error f → Refusal term f) {ts : List (Sign × String)}
    (h : ∃ t ∈ ts, ∀ items, ¬ Items t.2 items) (acc : β) :
    ∃ f, LeftmostFault Items Refusal ts f ∧ combine resolve plus minus acc ts = .error f := by
  induction ts generalizing acc with
  | nil => simp at h
  | cons t ts ih =>
    obtain ⟨sign, term⟩ := t
    cases hterm : resolve term with
    | error f =>
      have hnone : ∀ items, ¬ Items term items := by
        intro items hitems
        simp [(hok term items).2 hitems] at hterm
      refine ⟨f, ⟨[], sign, term, ts, rfl, by simp, hnone, herror term f hterm⟩, ?_⟩
      simp only [combine, hterm]
    | ok items =>
      have hitems := (hok term items).1 hterm
      have hlater : ∃ t ∈ ts, ∀ items, ¬ Items t.2 items := by
        obtain ⟨t, ht, hnone⟩ := h
        rcases List.mem_cons.1 ht with rfl | ht
        · exact absurd hitems (hnone items)
        · exact ⟨t, ht, hnone⟩
      -- The fault found further on has this term before it too.
      have hlift {f : Fault} (hf : LeftmostFault Items Refusal ts f) :
          LeftmostFault Items Refusal ((sign, term) :: ts) f := by
        obtain ⟨before, sign', term', after, rfl, hbefore, hrest⟩ := hf
        refine ⟨(sign, term) :: before, sign', term', after, rfl, ?_, hrest⟩
        exact List.forall_mem_cons.2 ⟨⟨items, hitems⟩, hbefore⟩
      cases sign with
      | plus =>
        obtain ⟨f, hf, hcombine⟩ := ih hlater (plus acc items)
        exact ⟨f, hlift hf, by simpa only [combine, hterm] using hcombine⟩
      | minus =>
        obtain ⟨f, hf, hcombine⟩ := ih hlater (minus acc items)
        exact ⟨f, hlift hf, by simpa only [combine, hterm] using hcombine⟩

end Combine

section Terms

variable (allowed : String) (l : Line) (s : Store) (term : String)

theorem listTerm_eq_ok_iff (items : List String) :
    listTerm allowed l s term = .ok items ↔ ListItems s term items := by
  constructor
  · intro h
    unfold listTerm viewOf at h
    split at h
    · next text hquoted =>
      obtain rfl := Except.ok.inj h
      exact .literal hquoted
    · next hplain =>
      cases hview : s.lookup term .all with
      | none => simp [hview] at h
      | some view =>
        cases view with
        | list found =>
          obtain rfl : found = items := by simpa [hview] using h
          exact .named hplain hview
        | _ => simp [hview] at h
  · intro h
    cases h with
    | literal hquoted => simp [listTerm, hquoted]
    | named hplain hview => simp [listTerm, viewOf, hplain, hview]

theorem refused_of_listTerm (f : Fault) (h : listTerm allowed l s term = .error f) :
    Refused l s .list allowed term f := by
  unfold listTerm viewOf at h
  split at h
  · simp at h
  · next hplain =>
    cases hview : s.lookup term .all with
    | none =>
      obtain rfl : Fault.unknownVariable l term = f := by simpa [hview] using h
      exact .unknown hplain hview
    | some view =>
      cases view with
      | list items => simp [hview] at h
      | _ =>
        simp only [hview] at h
        obtain rfl := Except.error.inj h
        exact .mismatch hplain hview (by simp [View.kind])

theorem groupTerm_eq_ok_iff (members : List Entity) :
    groupTerm l s term = .ok members ↔ GroupItems s term members := by
  constructor
  · intro h
    unfold groupTerm viewOf at h
    split at h
    · simp at h
    · next hplain =>
      cases hview : s.lookup term .all with
      | none => simp [hview] at h
      | some view =>
        cases view with
        | group g =>
          obtain rfl : g.members = members := by simpa [hview] using h
          exact .named hplain hview
        | _ => simp [hview] at h
  · intro h
    cases h with
    | named hplain hview => simp [groupTerm, viewOf, hplain, hview]

theorem refused_of_groupTerm (f : Fault) (h : groupTerm l s term = .error f) :
    Refused l s .group "a variable of type gen" term f := by
  unfold groupTerm viewOf at h
  split at h
  · next text hquoted =>
    obtain rfl := Except.error.inj h
    exact .literal hquoted (by decide)
  · next hplain =>
    cases hview : s.lookup term .all with
    | none =>
      obtain rfl : Fault.unknownVariable l term = f := by simpa [hview] using h
      exact .unknown hplain hview
    | some view =>
      cases view with
      | group g => simp [hview] at h
      | _ =>
        simp only [hview] at h
        obtain rfl := Except.error.inj h
        exact .mismatch hplain hview (by simp [View.kind])

end Terms

/-- A sum of lists or groups that is no selection. Its right-hand side reads as signed terms in one
way. If all terms have items, these are combined: each item once, exactly those that the last term
with them adds, in the order of their latest arrival. If some term has none, the leftmost such term
is at fault, and the store stays as it is. -/
theorem sums_follow_terms {rhs : String} (h : selection? rhs = none) (l : Line) (s : Store)
    (c : Chance) :
    (∃ ts, Reads rhs ts) ∧ ∀ ts, Reads rhs ts →
    (∀ us, List.Forall₂ (fun t u => t.1 = u.1 ∧ ListItems s t.2 u.2) ts us →
      ∃ sum, evaluate .list rhs l s c = (.ok (.list sum), c) ∧ IsSum us sum) ∧
    (∀ us, List.Forall₂ (fun t u => t.1 = u.1 ∧ GroupItems s t.2 u.2) ts us →
      ∃ sum, evaluate .group rhs l s c = (.ok (.group sum), c) ∧ IsSum us sum) ∧
    ((∃ t ∈ ts, ∀ items, ¬ ListItems s t.2 items) →
      ∃ f, LeftmostFault (ListItems s)
          (Refused l s .list "a string literal or a variable of type list") ts f ∧
        evaluate .list rhs l s c = (.error f, c) ∧
        ∀ lhs, splitAssignment l.params = some (lhs, rhs) →
          assign .list l s c = ((s, some f), c)) ∧
    ((∃ t ∈ ts, ∀ items, ¬ GroupItems s t.2 items) →
      ∃ f, LeftmostFault (GroupItems s) (Refused l s .group "a variable of type gen") ts f ∧
        evaluate .group rhs l s c = (.error f, c) ∧
        ∀ lhs, splitAssignment l.params = some (lhs, rhs) →
          assign .group l s c = ((s, some f), c)) := by
  have hlists : evaluate .list rhs l s c = ((listSum rhs l s).map .list, c) :=
    evaluate_of_not_selection (fun _ => h) l s c
  have hgroups : evaluate .group rhs l s c = ((groupSum rhs l s).map .group, c) :=
    evaluate_of_not_selection (fun _ => h) l s c
  refine ⟨⟨_, terms_eq_iff.1 rfl⟩, ?_⟩
  intro ts hreads
  obtain rfl := terms_eq_iff.2 hreads
  refine ⟨?_, ?_, ?_, ?_⟩
  · intro us hus
    have hsum : listSum rhs l s = .ok (total us) :=
      combine_of_items (listTerm_eq_ok_iff _ l s) hus
    exact ⟨total us, by rw [hlists, hsum]; rfl, isSum_total us⟩
  · intro us hus
    have hsum : groupSum rhs l s = .ok (total us) :=
      combine_of_items (groupTerm_eq_ok_iff l s) hus
    exact ⟨total us, by rw [hgroups, hsum]; rfl, isSum_total us⟩
  · intro hbad
    obtain ⟨f, hf, hsum⟩ := combine_of_refused (listTerm_eq_ok_iff _ l s)
      (refused_of_listTerm _ l s) hbad []
    have hvalue : evaluate .list rhs l s c = (.error f, c) := by
      rw [hlists, listSum, hsum]
      rfl
    exact ⟨f, hf, hvalue, fun lhs hline => assign_of_evaluate_error hline hvalue⟩
  · intro hbad
    obtain ⟨f, hf, hsum⟩ := combine_of_refused (groupTerm_eq_ok_iff l s)
      (refused_of_groupTerm l s) hbad []
    have hvalue : evaluate .group rhs l s c = (.error f, c) := by
      rw [hgroups, groupSum, hsum]
      rfl
    exact ⟨f, hf, hvalue, fun lhs hline => assign_of_evaluate_error hline hvalue⟩

/-- An item that is taken away and comes back at the end; as terms of groups, the first is at
fault. -/
theorem sums_follow_terms_pets :
    let pets := ["cat", "dog", "cat"]
    let s : Store :=
      { Store.ofFolders .empty .empty with
        userVars := .ofEntries [("pets", .list pets), ("dogs", .list ["dog"])] }
    let rhs := "pets + \"owl\" - dogs + dogs"
    let l := Line.ofText 1 ("ASSIGNLIST all = " ++ rhs)
    let ts := [(.plus, "pets"), (.plus, "\"owl\""), (.minus, "dogs"), (.plus, "dogs")]
    let us := [(.plus, pets), (.plus, ["owl"]), (.minus, ["dog"]), (.plus, ["dog"])]
    let f := Fault.typeMismatch l "pets" "a variable of type gen" "list"
    ∃ c, selection? rhs = none ∧ Reads rhs ts ∧
    List.Forall₂ (fun t u => t.1 = u.1 ∧ ListItems s t.2 u.2) ts us ∧
    evaluate .list rhs l s c = (.ok (.list ["cat", "owl", "dog"]), c) ∧
    IsSum us ["cat", "owl", "dog"] ∧
    evaluate .group rhs l s c = (.error f, c) ∧
    LeftmostFault (GroupItems s) (Refused l s .group "a variable of type gen") ts f := by
  intro pets s rhs l ts us f
  let c : Chance := ⟨fun _ => 0, 0⟩
  have hnone : selection? rhs = none := by decide +kernel
  have hreads : Reads rhs ts := terms_eq_iff.1 (by decide +kernel)
  have hlower : Text.lower "pets" = "pets" ∧ Text.lower "dogs" = "dogs" := by decide +kernel
  have hslots : s.locate "pets" .all = some .user ∧ s.locate "dogs" .all = some .user := by
    decide +kernel
  have hpets : s.lookup "pets" .all = some (.list pets) := by
    simp only [Store.lookup, hlower, hslots]
    rfl
  have hdogs : s.lookup "dogs" .all = some (.list ["dog"]) := by
    simp only [Store.lookup, hlower, hslots]
    rfl
  obtain ⟨hlists, -, -, hgroups⟩ := (sums_follow_terms hnone l s c).2 ts hreads
  have hitems : List.Forall₂ (fun t u => t.1 = u.1 ∧ ListItems s t.2 u.2) ts us := by
    have hnamed : ListItems s "dogs" ["dog"] := .named (by decide +kernel) hdogs
    exact .cons ⟨rfl, .named (by decide +kernel) hpets⟩
      (.cons ⟨rfl, .literal (by decide +kernel)⟩ (.cons ⟨rfl, hnamed⟩ (.cons ⟨rfl, hnamed⟩ .nil)))
  have hbad : ∃ t ∈ ts, ∀ members, ¬ GroupItems s t.2 members := by
    refine ⟨(.plus, "pets"), by simp [ts], ?_⟩
    intro members hmembers
    cases hmembers with
    | named _ hview => simp [hpets] at hview
  obtain ⟨sum, hsum, hissum⟩ := hlists us hitems
  obtain ⟨fault, hleftmost, hfault, -⟩ := hgroups hbad
  have hlist : evaluate .list rhs l s c = (.ok (.list ["cat", "owl", "dog"]), c) := by
    have hvalue : listSum rhs l s = .ok ["cat", "owl", "dog"] := by decide +kernel
    rw [evaluate_of_not_selection (fun _ => hnone)]
    simp [evaluateFixed, hvalue, Except.map]
  have hgroup : evaluate .group rhs l s c = (.error f, c) := by
    have hvalue : groupSum rhs l s = .error f := by decide +kernel
    rw [evaluate_of_not_selection (fun _ => hnone)]
    simp [evaluateFixed, hvalue, Except.map]
  obtain rfl : ["cat", "owl", "dog"] = sum := by simpa [hlist] using hsum
  obtain rfl : f = fault := by simpa [hgroup] using hfault
  exact ⟨c, hnone, hreads, hitems, hlist, hissum, hgroup, hleftmost⟩

end ProseScript.Expression
