import ProseScript.Proofs.Placeholder.Substitution
import ProseScript.Proofs.Store.Additions

/-!
Placeholders in filled sentences. Main statement: when no word has an underscore, a placeholder is
left exactly where an underscore of the sentence that stands before a replaced placeholder joins
with the text after it.
-/

namespace ProseScript.Placeholder

/-- No word that a placeholder can be filled with has an underscore. -/
structure Unmarked (words : Catalog) (store : Store) : Prop where
  entries : ∀ key ws, words.get? key = some ws → ∀ w ∈ ws, '_' ∉ w.toList
  fields : ∀ name g, store.groups.get? name = some g → ∀ e ∈ g.members, ∀ field ws,
    e.get? field = some ws → ∀ w ∈ ws, '_' ∉ w.toList

/-- An underscore that ends a plain text of the division begins a placeholder with the words put
after it. -/
def Joins : List (List Char × List Char) → List String → List Char → Prop
  | (plain, _) :: parts, w :: ws, last =>
      (plain.getLast? = some '_' ∧ Begins ('_' :: (w.toList ++ weave parts ws last))) ∨
        Joins parts ws last
  | _, _, _ => False

theorem not_joins_of_unmarked_ends {parts : List (List Char × List Char)}
    (h : ∀ part ∈ parts, part.1.getLast? ≠ some '_') (ws : List String) (last : List Char) :
    ¬ Joins parts ws last := by
  induction parts generalizing ws with
  | nil => simp [Joins]
  | cons part parts ih =>
    obtain ⟨plain, token⟩ := part
    cases ws with
    | nil => simp [Joins]
    | cons w ws =>
      intro hjoins
      rcases hjoins with ⟨hend, -⟩ | hlater
      · exact h (plain, token) List.mem_cons_self hend
      · exact ih (fun part hpart => h part (List.mem_cons_of_mem _ hpart)) ws hlater

section Words

variable {words : Catalog} {store : Store} {token : List Char}

theorem unmarked_of_field? (h : Unmarked words store) {group field : String} {ws : List String}
    (hfield : store.field? group field = some ws) : ∀ w ∈ ws, '_' ∉ w.toList := by
  obtain ⟨e, hactive, hget⟩ := Option.bind_eq_some_iff.1 hfield
  obtain ⟨g, hg, hpointed⟩ := Option.bind_eq_some_iff.1 hactive
  obtain ⟨i, -, hmember⟩ := Option.bind_eq_some_iff.1 hpointed
  exact h.fields group g hg e (List.mem_of_getElem? hmember) field ws hget

theorem Listed.unmarked (h : Unmarked words store) {ws : List String}
    (hws : Listed words store token ws) : ∀ w ∈ ws, '_' ∉ w.toList := by
  cases hws with
  | entry hdot hentry => exact h.entries _ ws hentry
  | field hdot hlookup =>
    obtain ⟨slot, hslot, hread⟩ := Option.bind_eq_some_iff.1 hlookup
    rw [Store.locate_group] at hslot
    split at hslot
    · -- A group of that name is no list.
      obtain rfl := Option.some.inj hslot
      simp [Store.read] at hread
    · obtain ⟨group, field, -, -, rfl⟩ := Store.fieldSlot?_eq_some_iff.1 hslot
      obtain ⟨items, hitems, heq⟩ := Option.map_eq_some_iff.1 hread
      obtain rfl := View.list.inj heq
      exact unmarked_of_field? h hitems

theorem Filling.unmarked (h : Unmarked words store) {w : String} {miss : Option Miss}
    (hfilling : Filling words store token w miss) : '_' ∉ w.toList := by
  cases hfilling with
  | word hws hw => exact hws.unmarked h w hw
  | empty => decide
  | missing => decide

theorem unmarked_fills (h : Unmarked words store) {parts : List (List Char × List Char)}
    {fills : List (String × Option Miss)}
    (hfills : List.Forall₂ (fun part f => Filling words store part.2 f.1 f.2) parts fills) :
    ∀ w ∈ fills.map Prod.fst, '_' ∉ w.toList := by
  induction hfills with
  | nil => simp
  | cons hfirst _ ih =>
    rw [List.map_cons, List.forall_mem_cons]
    exact ⟨hfirst.unmarked h, ih⟩

end Words

/-- A placeholder that begins before the end of some text also begins there if an underscore follows
the text: what a token begins with is a token. -/
theorem begins_of_begins_before {front rest : List Char} (hne : front ≠ [])
    (h : Begins ('_' :: (front ++ rest))) (after : List Char) :
    Begins ('_' :: (front ++ '_' :: after)) := by
  obtain ⟨token, tail, htoken, htext⟩ := h
  have htext : front ++ rest = token ++ '_' :: tail := by simpa [marked] using htext
  rcases List.append_eq_append_iff.1 htext with ⟨back, rfl, -⟩ | ⟨back, rfl, htail⟩
  · exact ⟨front, after, htoken.of_append hne, by simp [marked]⟩
  · cases back with
    | nil => exact ⟨token, after, htoken, by simp [marked]⟩
    | cons c back =>
      obtain ⟨rfl, -⟩ := List.cons.inj htail
      exact ⟨token, back ++ '_' :: after, htoken, by simp [marked]⟩

/-- A placeholder begins in a text of two parts before the second part or within it. -/
theorem begins_drop_append_iff (front back : List Char) :
    (∃ k, Begins ((front ++ back).drop k)) ↔
      (∃ k < front.length, Begins ((front ++ back).drop k)) ∨ ∃ k, Begins (back.drop k) := by
  constructor
  · intro ⟨k, hk⟩
    by_cases hlt : k < front.length
    · exact .inl ⟨k, hlt, hk⟩
    · have hpast : (front ++ back).drop k = back.drop (k - front.length) := by
        rw [List.drop_append, List.drop_eq_nil_of_le (by omega), List.nil_append]
      exact .inr ⟨k - front.length, hpast ▸ hk⟩
  · intro h
    rcases h with ⟨k, -, hk⟩ | ⟨k, hk⟩
    · exact ⟨k, hk⟩
    · exact ⟨front.length + k, by simpa using hk⟩

/-- No placeholder begins in a word without underscores. -/
theorem begins_drop_word_iff {word : List Char} (hword : '_' ∉ word) (back : List Char) :
    (∃ k, Begins ((word ++ back).drop k)) ↔ ∃ k, Begins (back.drop k) := by
  rw [begins_drop_append_iff]
  refine or_iff_right ?_
  intro ⟨k, hlt, hk⟩
  rw [List.drop_append_of_le_length (by omega), List.drop_eq_getElem_cons hlt] at hk
  obtain ⟨hmark, -⟩ := begins_iff.1 hk
  exact hword (hmark ▸ List.getElem_mem hlt)

/-- In plain text that stood before an underscore and had no placeholders, other text after it makes
one begin at its end only. -/
theorem begins_drop_plain_iff {plain after : List Char}
    (hfirst : ∀ k < plain.length, ¬ Begins ((plain ++ '_' :: after).drop k)) (back : List Char) :
    (∃ k < plain.length, Begins ((plain ++ back).drop k)) ↔
      plain.getLast? = some '_' ∧ Begins ('_' :: back) := by
  constructor
  · intro ⟨k, hlt, hk⟩
    have hdrop : plain.drop k = plain[k] :: plain.drop (k + 1) := List.drop_eq_getElem_cons hlt
    have hthere := hfirst k hlt
    rw [List.drop_append_of_le_length (by omega), hdrop] at hk hthere
    obtain ⟨hmark, -⟩ := begins_iff.1 hk
    rw [hmark] at hk hthere hdrop
    -- What follows the underscore within the plain text would have made a placeholder before.
    have hend : plain.drop (k + 1) = [] := by
      by_contra hne
      exact hthere (begins_of_begins_before hne hk after)
    rw [hend] at hk hdrop
    have hlast : plain.getLast? = some '_' := by
      rw [← List.take_append_drop k plain, hdrop]
      simp
    exact ⟨hlast, hk⟩
  · intro ⟨hlast, hback⟩
    obtain ⟨front, rfl⟩ := List.getLast?_eq_some_iff.1 hlast
    exact ⟨front.length, by simp, by simpa using hback⟩

/-- The placeholders of a filled sentence begin where it joins. -/
theorem begins_drop_weave_iff {cs last : List Char} {parts : List (List Char × List Char)}
    (h : Divides cs parts last) {ws : List String} (hlength : ws.length = parts.length)
    (hws : ∀ w ∈ ws, '_' ∉ w.toList) :
    (∃ k, Begins ((weave parts ws last).drop k)) ↔ Joins parts ws last := by
  induction h generalizing ws with
  | last hnone =>
    have hleft : ¬ ∃ k, Begins ((weave [] ws _).drop k) := fun ⟨k, hk⟩ => hnone k hk
    simpa [Joins] using hleft
  | @next plain token rest last parts htoken hfirst hrest ih =>
    cases ws with
    | nil => simp at hlength
    | cons w ws =>
      have hlater := ih (by simpa using hlength) fun v hv => hws v (List.mem_cons_of_mem _ hv)
      have hword := hws w List.mem_cons_self
      rw [weave, begins_drop_append_iff, begins_drop_word_iff hword, hlater, Joins,
        begins_drop_plain_iff (by simpa [marked] using hfirst)]

/-- A filled sentence has no placeholders exactly when no underscore before a replaced placeholder
joins with the text that follows it. So it has none if no such underscore is there. -/
theorem placeholders_left_by_joining (sentence : String) {words : Catalog} {store : Store}
    (hwords : Unmarked words store) (c : Chance) :
    (∃ parts last, Divides sentence.toList parts last) ∧
    ∀ parts last, Divides sentence.toList parts last →
      ∃ fills, List.Forall₂ (fun part f => Filling words store part.2 f.1 f.2) parts fills ∧
        (substitute sentence words store c).1.text =
          String.ofList (weave parts (fills.map Prod.fst) last) ∧
        (count (substitute sentence words store c).1.text = 0 ↔
          ¬ Joins parts (fills.map Prod.fst) last) ∧
        ((∀ part ∈ parts, part.1.getLast? ≠ some '_') →
          count (substitute sentence words store c).1.text = 0) := by
  refine ⟨exists_divides sentence.toList, ?_⟩
  intro parts last hdivides
  obtain ⟨fills, hfills, hresult⟩ := substitute_of_divides hdivides words store c
  have hlength : (fills.map Prod.fst).length = parts.length := by
    rw [List.length_map, hfills.length_eq]
  have htext : (substitute sentence words store c).1.text =
      String.ofList (weave parts (fills.map Prod.fst) last) := by
    rw [hresult]
  have hcount : count (substitute sentence words store c).1.text = 0 ↔
      ¬ Joins parts (fills.map Prod.fst) last := by
    rw [← begins_drop_weave_iff hdivides hlength (unmarked_fills hwords hfills), htext,
      count_eq_zero_iff, String.toList_ofList, not_exists]
  refine ⟨fills, hfills, htext, hcount, ?_⟩
  intro hends
  exact hcount.2 (not_joins_of_unmarked_ends hends _ last)

theorem unmarked_noun : Unmarked (.ofEntries [("noun", ["cat"])]) (.ofFolders .empty .empty) where
  entries key ws hws w hw := by
    change List.lookup key [("noun", ["cat"])] = some ws at hws
    rw [Table.lookup_cons_ite] at hws
    split at hws
    · obtain rfl := Option.some.inj hws
      obtain rfl := List.mem_singleton.1 hw
      decide
    · simp at hws
  fields name g hg := by simp [Store.ofFolders, Table.empty, Table.get?] at hg

/-- An underscore before the placeholder that the text after the word does not close. -/
theorem placeholders_left_by_joining_noun :
    let sentence := "__noun_ sat"
    let words : Catalog := .ofEntries [("noun", ["cat"])]
    let store : Store := .ofFolders .empty .empty
    let parts := [(['_'], "noun".toList)]
    Unmarked words store ∧ Divides sentence.toList parts " sat".toList ∧
    ∃ fills, List.Forall₂ (fun part f => Filling words store part.2 f.1 f.2) parts fills ∧
      String.ofList (weave parts (fills.map Prod.fst) " sat".toList) = "_cat sat" ∧
      ¬ Joins parts (fills.map Prod.fst) " sat".toList := by
  intro sentence words store parts
  have hnoun : IsToken "noun".toList := .of_alphanum (by decide) (List.all_eq_true.1 (by decide))
  have hrest : Divides " sat".toList [] " sat".toList :=
    .last (count_eq_zero_iff.1 (by decide +kernel))
  have hsentence : sentence.toList = ['_'] ++ (marked "noun".toList ++ " sat".toList) := by decide
  have hdivides : Divides sentence.toList parts " sat".toList := by
    rw [hsentence]
    exact .next hnoun (by decide) hrest
  have htext : (substitute sentence words store ⟨fun _ => 0, 0⟩).1.text = "_cat sat" := by
    decide +kernel
  have hcount : count "_cat sat" = 0 := by decide +kernel
  obtain ⟨-, hleft⟩ := placeholders_left_by_joining sentence unmarked_noun ⟨fun _ => 0, 0⟩
  obtain ⟨fills, hfills, hweave, hiff, -⟩ := hleft parts _ hdivides
  rw [htext] at hweave hiff
  exact ⟨unmarked_noun, hdivides, fills, hfills, hweave.symm, hiff.1 hcount⟩

/-- The underscores on both sides of a replaced placeholder make one of the word between them. -/
theorem doubled_underscores_leave_placeholder :
    let words : Catalog := .ofEntries [("noun", ["cat"])]
    let store : Store := .ofFolders .empty .empty
    let text := (substitute "__noun__" words store ⟨fun _ => 0, 0⟩).1.text
    Unmarked words store ∧ text = "_cat_" ∧ count text = 1 := by
  intro words store text
  exact ⟨unmarked_noun, by decide +kernel, by decide +kernel⟩

end ProseScript.Placeholder
