import ProseScript.Proofs.Expression.Sum

/-!
Sums of catalogs. Main statement: a sum holds the keys whose last term adds them, each with the list
of that term and in the order of its latest arrival; a quoted text or a group among the terms is a
mismatch, unless an earlier term is at fault.
-/

namespace ProseScript.Expression

section Total

/-- The keys that each term mentions. -/
def mentions (us : List (Sign × Catalog)) : List (Sign × List String) :=
  us.map fun u => (u.1, u.2.keys)

/-- The last term that mentions a key. -/
def lastMention (us : List (Sign × Catalog)) (key : String) : Option (Sign × Catalog) :=
  (us.filter (key ∈ ·.2.keys)).getLast?

/-- What the catalogs of signed terms come to. As to the keys, it is the sum of what is mentioned;
each key has the list that the last term with it supplies. -/
structure IsCatalogSum (us : List (Sign × Catalog)) (sum : Catalog) : Prop where
  keys : IsSum (mentions us) sum.keys
  get?_iff : ∀ key items, sum.get? key = some items ↔
    ∃ u, lastMention us key = some (.plus, u) ∧ u.get? key = some items

/-- The terms taken together from left to right. -/
def catalogTotal (us : List (Sign × Catalog)) : Catalog :=
  us.foldl (fun acc u => match u.1 with
    | .plus => acc.merge u.2
    | .minus => acc.eraseAll u.2.keys) .empty

theorem catalogTotal_plus (us : List (Sign × Catalog)) (u : Catalog) :
    catalogTotal (us ++ [(.plus, u)]) = (catalogTotal us).merge u := by
  simp [catalogTotal]

theorem catalogTotal_minus (us : List (Sign × Catalog)) (u : Catalog) :
    catalogTotal (us ++ [(.minus, u)]) = (catalogTotal us).eraseAll u.keys := by
  simp [catalogTotal]

theorem lastMention_concat (us : List (Sign × Catalog)) (u : Sign × Catalog) (key : String) :
    lastMention (us ++ [u]) key = if key ∈ u.2.keys then some u else lastMention us key := by
  by_cases hkey : key ∈ u.2.keys
  · simp [lastMention, hkey]
  · simp [lastMention, hkey]

theorem keys_merge (t u : Catalog) : (t.merge u).keys = union t.keys u.keys := by
  obtain ⟨es⟩ := u
  induction es using List.reverseRecOn with
  | nil => rfl
  | append_singleton es e ih =>
    rw [Table.merge_concat, Table.keys_concat, Table.keys_insert, ih, union_concat]

theorem keys_eraseAll {t : Catalog} (h : t.keys.Nodup) (ks : List String) :
    (t.eraseAll ks).keys = difference t.keys ks := by
  induction ks using List.reverseRecOn with
  | nil => simp [Table.eraseAll, difference]
  | append_singleton ks key ih =>
    have herase : t.eraseAll (ks ++ [key]) = (t.eraseAll ks).erase key := by simp [Table.eraseAll]
    have hkeys := Table.keys_erase_of_nodup (Table.nodup_eraseAll h ks) key
    rw [herase, hkeys, ih, difference, difference, List.filter_filter]
    refine List.filter_congr ?_
    intro k _
    by_cases hk : k = key
    · simp [hk]
    · simp [hk]

theorem keys_catalogTotal (us : List (Sign × Catalog)) :
    (catalogTotal us).keys = total (mentions us) := by
  induction us using List.reverseRecOn with
  | nil => rfl
  | append_singleton us u ih =>
    obtain ⟨sign, u⟩ := u
    have hmentions : mentions (us ++ [(sign, u)]) = mentions us ++ [(sign, u.keys)] := by
      simp [mentions]
    rw [hmentions]
    cases sign with
    | plus => rw [catalogTotal_plus, keys_merge, total_plus, ih]
    | minus =>
      have hnodup : (catalogTotal us).keys.Nodup := ih ▸ (isSum_total (mentions us)).nodup
      rw [catalogTotal_minus, keys_eraseAll hnodup, total_minus, ih]

theorem nodup_catalogTotal (us : List (Sign × Catalog)) : (catalogTotal us).keys.Nodup :=
  keys_catalogTotal us ▸ (isSum_total (mentions us)).nodup

theorem get?_catalogTotal_iff {us : List (Sign × Catalog)} (h : ∀ u ∈ us, u.2.keys.Nodup)
    (key : String) (items : List String) :
    (catalogTotal us).get? key = some items ↔
      ∃ u, lastMention us key = some (.plus, u) ∧ u.get? key = some items := by
  induction us using List.reverseRecOn with
  | nil => simp [catalogTotal, lastMention]
  | append_singleton us u ih =>
    obtain ⟨sign, u⟩ := u
    have hnodup : u.keys.Nodup := h (sign, u) (by simp)
    have hearlier := ih fun u hu => h u (List.mem_append_left _ hu)
    rw [lastMention_concat]
    by_cases hkey : key ∈ u.keys
    · -- This term decides.
      cases sign with
      | plus =>
        obtain ⟨found, hfound⟩ := Option.isSome_iff_exists.1 ((u.contains_iff key).2 hkey)
        simp [catalogTotal_plus, Table.get?_merge _ hnodup, hkey, hfound]
      | minus => simp [catalogTotal_minus, Table.get?_eraseAll (nodup_catalogTotal us), hkey]
    · have hnone : u.get? key = none := Table.get?_eq_none_iff.2 hkey
      cases sign with
      | plus => simpa [catalogTotal_plus, Table.get?_merge _ hnodup, hkey, hnone] using hearlier
      | minus =>
        simpa [catalogTotal_minus, Table.get?_eraseAll (nodup_catalogTotal us), hkey] using hearlier

theorem isCatalogSum_catalogTotal {us : List (Sign × Catalog)} (h : ∀ u ∈ us, u.2.keys.Nodup) :
    IsCatalogSum us (catalogTotal us) where
  keys := keys_catalogTotal us ▸ isSum_total (mentions us)
  get?_iff := get?_catalogTotal_iff h

end Total

/-- The catalog that a term adds or takes away: a list under the term's own name in lower case, or a
catalog as it is. -/
inductive Supplies (s : Store) (term : String) : Catalog → Prop
  | list {items : List String} (hplain : Text.quoted? term = none)
      (hview : s.lookup term .all = some (.list items)) :
      Supplies s term ⟨[(Text.lower term, items)]⟩
  | catalog {entries : Catalog} (hplain : Text.quoted? term = none)
      (hview : s.lookup term .all = some (.catalog entries)) : Supplies s term entries

theorem Supplies.nodup {s : Store} (hs : s.Keyed) {term : String} {u : Catalog}
    (h : Supplies s term u) : u.keys.Nodup := by
  cases h with
  | list _ _ => exact List.nodup_singleton _
  | catalog _ hview => exact hs.nodup_of_lookup hview

/-- A term that no catalog can be made of, and what a fault calls it. -/
inductive Unsuited (s : Store) (term : String) : String → Prop
  | literal {text : String} (hquoted : Text.quoted? term = some text) :
      Unsuited s term "a string literal"
  | group {g : Group} (hplain : Text.quoted? term = none)
      (hview : s.lookup term .all = some (.group g)) : Unsuited s term "gen"

section Terms

variable (l : Line) (s : Store) (term : String)

theorem catalogTerm_eq_ok_iff (u : Catalog) :
    catalogTerm l s term = .ok u ↔ Supplies s term u := by
  constructor
  · intro h
    unfold catalogTerm viewOf at h
    split at h
    · simp at h
    · next hplain =>
      cases hview : s.lookup term .all with
      | none => simp [hview] at h
      | some view =>
        cases view with
        | list items =>
          obtain rfl : ⟨[(Text.lower term, items)]⟩ = u := by simpa [hview] using h
          exact .list hplain hview
        | catalog entries =>
          obtain rfl : entries = u := by simpa [hview] using h
          exact .catalog hplain hview
        | _ => simp [hview] at h
  · intro h
    cases h with
    | list hplain hview => simp [catalogTerm, viewOf, hplain, hview]
    | catalog hplain hview => simp [catalogTerm, viewOf, hplain, hview]

theorem refused_of_catalogTerm (f : Fault) (h : catalogTerm l s term = .error f) :
    Refused l s .catalog "a variable of type list or catalog" term f := by
  unfold catalogTerm viewOf at h
  split at h
  · next text hquoted =>
    obtain rfl := Except.error.inj h
    exact .literal hquoted (by decide)
  · next hplain =>
    cases hview : s.lookup term .all with
    | none =>
      obtain rfl : Fault.unknownVariable l term = f := by simpa [hview] using h
      exact .unknown hplain hview
    | some view =>
      cases view with
      | list items => simp [hview] at h
      | catalog entries => simp [hview] at h
      | _ =>
        simp only [hview] at h
        obtain rfl := Except.error.inj h
        exact .mismatch hplain hview (by simp [View.kind])

theorem catalogTerm_of_unsuited {actual : String} (h : Unsuited s term actual) :
    catalogTerm l s term =
      .error (.typeMismatch l term "a variable of type list or catalog" actual) := by
  cases h with
  | literal hquoted => simp [catalogTerm, hquoted]
  | group hplain hview => simp [catalogTerm, viewOf, hplain, hview, View.kind, Kind.name]

end Terms

section Combine

variable {α β : Type} {resolve : String → Except Fault β} {plus minus : α → β → α}

theorem combine_append (acc : α) (ts us : List (Sign × String)) :
    combine resolve plus minus acc (ts ++ us) =
      (combine resolve plus minus acc ts).bind fun acc => combine resolve plus minus acc us := by
  induction ts generalizing acc with
  | nil => rfl
  | cons t ts ih =>
    obtain ⟨sign, term⟩ := t
    simp only [List.cons_append, combine]
    cases resolve term with
    | error f => rfl
    | ok b => cases sign <;> exact ih _

theorem exists_combine {ts : List (Sign × String)} (h : ∀ t ∈ ts, ∃ b, resolve t.2 = .ok b)
    (acc : α) : ∃ result, combine resolve plus minus acc ts = .ok result := by
  induction ts generalizing acc with
  | nil => exact ⟨acc, rfl⟩
  | cons t ts ih =>
    obtain ⟨sign, term⟩ := t
    obtain ⟨⟨b, hb⟩, hrest⟩ := List.forall_mem_cons.1 h
    simp only at hb
    simp only [combine, hb]
    cases sign <;> exact ih hrest _

/-- What is drawn out of the values of the terms may be drawn out as they are combined. -/
theorem combine_map {γ : Type} (f : γ → β) (resolve : String → Except Fault γ) (acc : α)
    (ts : List (Sign × String)) :
    combine (fun term => (resolve term).map f) plus minus acc ts =
      combine resolve (fun a c => plus a (f c)) (fun a c => minus a (f c)) acc ts := by
  induction ts generalizing acc with
  | nil => rfl
  | cons t ts ih =>
    obtain ⟨sign, term⟩ := t
    simp only [combine]
    cases resolve term with
    | error e => rfl
    | ok c => cases sign <;> exact ih _

end Combine

/-- What the terms that follow make of a catalog. -/
def sumFrom (l : Line) (s : Store) (acc : Catalog) (ts : List (Sign × String)) :
    Except Fault Catalog :=
  combine (catalogTerm l s) Table.merge (fun acc other => acc.eraseAll other.keys) acc ts

section SumFrom

variable {l : Line} {s : Store} {ts : List (Sign × String)}

theorem sumFrom_of_supplied {us : List (Sign × Catalog)}
    (h : List.Forall₂ (fun t u => t.1 = u.1 ∧ Supplies s t.2 u.2) ts us) :
    sumFrom l s .empty ts = .ok (catalogTotal us) := by
  refine combine_of_resolved (h.imp ?_) _
  intro t u hterm
  exact ⟨hterm.1, (catalogTerm_eq_ok_iff l s t.2 u.2).2 hterm.2⟩

theorem exists_sumFrom (h : ∀ t ∈ ts, ∃ u, Supplies s t.2 u) (acc : Catalog) :
    ∃ result, sumFrom l s acc ts = .ok result := by
  refine exists_combine ?_ acc
  intro t ht
  obtain ⟨u, hu⟩ := h t ht
  exact ⟨u, (catalogTerm_eq_ok_iff l s t.2 u).2 hu⟩

theorem entries_catalogTerm_iff (t : String) (entries : List (String × List String)) :
    (catalogTerm l s t).map Table.entries = .ok entries ↔ Supplies s t ⟨entries⟩ := by
  rw [← catalogTerm_eq_ok_iff l s t, Fault.map_eq_ok_iff]
  constructor
  · rintro ⟨u, hu, rfl⟩
    exact hu
  · intro hu
    exact ⟨_, hu, rfl⟩

theorem sumFrom_of_unsupplied (h : ∃ t ∈ ts, ∀ u, ¬ Supplies s t.2 u) (acc : Catalog) :
    ∃ f, LeftmostFault (fun t entries => Supplies s t ⟨entries⟩)
        (Refused l s .catalog "a variable of type list or catalog") ts f ∧
      sumFrom l s acc ts = .error f := by
  have hbad : ∃ t ∈ ts, ∀ entries, ¬ Supplies s t.2 ⟨entries⟩ := by
    obtain ⟨t, ht, hnone⟩ := h
    exact ⟨t, ht, fun entries => hnone ⟨entries⟩⟩
  have herror : ∀ t f, (catalogTerm l s t).map Table.entries = .error f →
      Refused l s .catalog "a variable of type list or catalog" t f := by
    intro t f hf
    refine refused_of_catalogTerm l s t f ?_
    cases hterm : catalogTerm l s t with
    | error e => simpa [hterm, Except.map] using hf
    | ok u => simp [hterm, Except.map] at hf
  -- The terms are taken for the entries they supply, which are lists.
  have hcombine : sumFrom l s acc ts = combine (fun t => (catalogTerm l s t).map Table.entries)
      (fun acc entries => acc.merge ⟨entries⟩)
      (fun acc entries => acc.eraseAll (Table.keys ⟨entries⟩)) acc ts := by
    rw [combine_map]
    rfl
  rw [hcombine]
  exact combine_of_refused entries_catalogTerm_iff herror hbad acc

/-- An unsuited term is at fault, unless an earlier one is. -/
theorem sumFrom_of_unsuited {before after : List (Sign × String)} {sign : Sign}
    {term actual : String} (hts : ts = before ++ (sign, term) :: after)
    (hterm : Unsuited s term actual) (acc : Catalog) :
    ∃ f, sumFrom l s acc ts = .error f ∧
      (LeftmostFault (fun t entries => Supplies s t ⟨entries⟩)
          (Refused l s .catalog "a variable of type list or catalog") before f ∨
        f = .typeMismatch l term "a variable of type list or catalog" actual) := by
  have hsplit : sumFrom l s acc ts =
      (sumFrom l s acc before).bind fun acc => sumFrom l s acc ((sign, term) :: after) := by
    rw [hts]
    exact combine_append acc before _
  rw [hsplit]
  by_cases hbefore : ∀ t ∈ before, ∃ u, Supplies s t.2 u
  · obtain ⟨sum, hsum⟩ := exists_sumFrom (l := l) hbefore acc
    have hfault := catalogTerm_of_unsuited l s term hterm
    refine ⟨_, ?_, .inr rfl⟩
    rw [hsum]
    simp only [Except.bind, sumFrom, combine, hfault]
  · have hbad : ∃ t ∈ before, ∀ u, ¬ Supplies s t.2 u := by
      simpa only [not_forall, not_exists, exists_prop] using hbefore
    obtain ⟨f, hf, hsum⟩ := sumFrom_of_unsupplied (l := l) hbad acc
    exact ⟨f, by rw [hsum]; rfl, .inl hf⟩

end SumFrom

/-- A sum of catalogs that is no selection. Its right-hand side reads as signed terms in one way. If
all terms supply catalogs, these are combined: its keys are distinct, exactly those that the last
term with them adds, each with the list of that term and in the order of its latest arrival. A quoted
text or a group among the terms is a mismatch, unless an earlier term is at fault. -/
theorem catalogSums_follow_terms {rhs : String} (h : selection? rhs = none) (l : Line) {s : Store}
    (hs : s.Keyed) (c : Chance) :
    (∃ ts, Reads rhs ts) ∧ ∀ ts, Reads rhs ts →
    (∀ us, List.Forall₂ (fun t u => t.1 = u.1 ∧ Supplies s t.2 u.2) ts us →
      ∃ sum, evaluate .catalog rhs l s c = (.ok (.catalog sum), c) ∧ IsCatalogSum us sum) ∧
    (∀ before sign term after actual, ts = before ++ (sign, term) :: after →
      Unsuited s term actual → ∃ f, evaluate .catalog rhs l s c = (.error f, c) ∧
        (LeftmostFault (fun t entries => Supplies s t ⟨entries⟩)
            (Refused l s .catalog "a variable of type list or catalog") before f ∨
          f = .typeMismatch l term "a variable of type list or catalog" actual)) := by
  have hvalue : evaluate .catalog rhs l s c = ((catalogSum rhs l s).map .catalog, c) :=
    evaluate_of_not_selection (fun _ => h) l s c
  refine ⟨⟨_, terms_eq_iff.1 rfl⟩, ?_⟩
  intro ts hreads
  obtain rfl := terms_eq_iff.2 hreads
  refine ⟨?_, ?_⟩
  · intro us hus
    have hsum : catalogSum rhs l s = .ok (catalogTotal us) := sumFrom_of_supplied hus
    have hkeys : ∀ u ∈ us, u.2.keys.Nodup := by
      intro u hu
      obtain ⟨i, hi, rfl⟩ := List.getElem_of_mem hu
      have hi' : i < (terms rhs).length := hus.length_eq ▸ hi
      exact (hus.get hi' hi).2.nodup hs
    exact ⟨catalogTotal us, by rw [hvalue, hsum]; rfl, isCatalogSum_catalogTotal hkeys⟩
  · intro before sign term after actual hterms hterm
    obtain ⟨f, hsum, hf⟩ := sumFrom_of_unsuited (l := l) hterms hterm .empty
    exact ⟨f, by rw [hvalue, catalogSum, ← sumFrom, hsum]; rfl, hf⟩

/-- A key that is taken from a whole folder and comes back at the end; and a quoted text after a
list. -/
theorem catalogSums_follow_terms_nouns :
    let words : Catalog := ⟨[("noun", ["cat"]), ("verb", ["ran"])]⟩
    let noun : Catalog := ⟨[("noun", ["cat"])]⟩
    let s := (Store.ofFolders words .empty).setAlias "wfolder" .words
    let rhs := "wfolder - Noun + Noun"
    let l := Line.ofText 1 ("ASSIGNCATALOG all = " ++ rhs)
    let ts := [(.plus, "wfolder"), (.minus, "Noun"), (.plus, "Noun")]
    let us := [(.plus, words), (.minus, noun), (.plus, noun)]
    let sum : Catalog := ⟨[("verb", ["ran"]), ("noun", ["cat"])]⟩
    let f := Fault.typeMismatch l "\"owl\"" "a variable of type list or catalog" "a string literal"
    ∃ c, s.Keyed ∧ selection? rhs = none ∧ Reads rhs ts ∧
    List.Forall₂ (fun t u => t.1 = u.1 ∧ Supplies s t.2 u.2) ts us ∧
    evaluate .catalog rhs l s c = (.ok (.catalog sum), c) ∧ IsCatalogSum us sum ∧
    selection? "noun + \"owl\"" = none ∧
    Reads "noun + \"owl\"" [(.plus, "noun"), (.plus, "\"owl\"")] ∧
    evaluate .catalog "noun + \"owl\"" l s c = (.error f, c) := by
  intro words noun s rhs l ts us sum f
  let c : Chance := ⟨fun _ => 0, 0⟩
  have hkeyed : s.Keyed := by
    refine ⟨by decide, by decide, ?_⟩
    intro name entries h
    cases h
  have hnone : selection? rhs = none := by decide +kernel
  have hnone' : selection? "noun + \"owl\"" = none := by decide +kernel
  have hreads : Reads rhs ts := terms_eq_iff.1 (by decide +kernel)
  have hreads' : Reads "noun + \"owl\"" ([(.plus, "noun")] ++ (.plus, "\"owl\"") :: []) :=
    terms_eq_iff.1 (by decide +kernel)
  have hname : Text.lower "Noun" = "noun" := by decide +kernel
  have hlower : Text.lower "wfolder" = "wfolder" ∧ Text.lower "noun" = "noun" := by decide +kernel
  have hslots : s.locate "wfolder" .all = some (.vocabulary .words) ∧
      s.locate "noun" .all = some .wordSet := by decide +kernel
  have hfolder : s.lookup "wfolder" .all = some (.catalog words) := by
    simp only [Store.lookup, hlower, hslots]
    rfl
  have hnoun : s.lookup "Noun" .all = some (.list ["cat"]) := by
    simp only [Store.lookup, hname, hslots]
    rfl
  have hlist : s.lookup "noun" .all = some (.list ["cat"]) := by
    simp only [Store.lookup, hlower, hslots]
    rfl
  have hquoted : Text.quoted? "\"owl\"" = some "owl" := by decide +kernel
  have hplain : Text.quoted? "noun" = none := by decide +kernel
  have hsupplies : Supplies s "Noun" noun := by
    have hentry : Supplies s "Noun" ⟨[(Text.lower "Noun", ["cat"])]⟩ :=
      .list (by decide +kernel) hnoun
    rwa [hname] at hentry
  obtain ⟨hsum, -⟩ := (catalogSums_follow_terms hnone l hkeyed c).2 ts hreads
  obtain ⟨-, hfault⟩ := (catalogSums_follow_terms hnone' l hkeyed c).2 _ hreads'
  have hitems : List.Forall₂ (fun t u => t.1 = u.1 ∧ Supplies s t.2 u.2) ts us :=
    .cons ⟨rfl, .catalog (by decide +kernel) hfolder⟩
      (.cons ⟨rfl, hsupplies⟩ (.cons ⟨rfl, hsupplies⟩ .nil))
  obtain ⟨found, hvalue, hissum⟩ := hsum us hitems
  obtain ⟨fault, hfault, hcause⟩ := hfault _ _ _ _ _ rfl (.literal hquoted)
  have hcatalog : evaluate .catalog rhs l s c = (.ok (.catalog sum), c) := by
    have hvalue : catalogSum rhs l s = .ok sum := by decide +kernel
    rw [evaluate_of_not_selection (fun _ => hnone)]
    simp [evaluateFixed, hvalue, Except.map]
  obtain rfl : sum = found := by simpa [hcatalog] using hvalue
  -- The list before the quoted text is not at fault.
  have hmismatch : fault = f := by
    refine hcause.resolve_left ?_
    rintro ⟨before, sign, term, after, hbefore, -, hbad, -⟩
    have hterm : (sign, term) ∈ [(Sign.plus, "noun")] := by simp [hbefore]
    obtain ⟨-, rfl⟩ := Prod.mk.inj (List.mem_singleton.1 hterm)
    exact hbad [(Text.lower "noun", ["cat"])] (.list hplain hlist)
  exact ⟨c, hkeyed, hnone, hreads, hitems, hcatalog, hissum, hnone', hreads', hmismatch ▸ hfault⟩

end ProseScript.Expression
