import ProseScript.Proofs.Expression.Sum

/-!
Joined words. Main statement: a joining is as long as its longest operand, and an item of it takes one
piece of each operand, at places that are remainders of remainders.
-/

namespace ProseScript.Expression

/-- The length of the longest of some operands. -/
def longest (operands : List (List String)) : Nat := (operands.map List.length).foldl max 0

/-- The places at which item `i` of a joining reads its operands: the last one at the place of the
item, and each before it at the remainder by the longest length up to there. -/
structure ReadAt (operands : List (List String)) (i : Nat) (place : Nat → Nat) : Prop where
  last : place (operands.length - 1) = i
  earlier : ∀ k, k + 1 < operands.length →
    place k = place (k + 1) % longest (operands.take (k + 1))

/-- The pieces of operands at the given places, the shorter operands going round, as one text. -/
def pieced (operands : List (List String)) (place : Nat → Nat) : String :=
  String.join (operands.mapIdx fun k xs => xs.getD (place k % xs.length) "")

section Longest

variable {operands : List (List String)}

theorem longest_concat (operands : List (List String)) (xs : List String) :
    longest (operands ++ [xs]) = max (longest operands) xs.length := by
  simp [longest]

/-- Where no operand is longer than the one before it, the first is the longest. -/
theorem longest_cons_of_le {xs : List String} (h : ∀ ys ∈ operands, ys.length ≤ xs.length) :
    longest (xs :: operands) = xs.length := by
  induction operands using List.reverseRecOn with
  | nil => simp [longest]
  | append_singleton operands ys ih =>
    have hfront : longest (xs :: operands) = xs.length := ih fun ys hys => h ys (by simp [hys])
    have hlast : ys.length ≤ xs.length := h ys (by simp)
    rw [← List.cons_append, longest_concat, hfront, Nat.max_eq_left hlast]

/-- The places that read the operands before the last lead on to a place in all of them. -/
theorem ReadAt.concat {i : Nat} {place : Nat → Nat}
    (h : ReadAt operands (i % longest operands) place) (xs : List String) :
    ReadAt (operands ++ [xs]) i fun k => if k < operands.length then place k else i where
  last := by simp
  earlier := by
    intro k hk
    have hlt : k < operands.length := by simpa using hk
    rw [if_pos hlt, List.take_append_of_le_length (by omega)]
    split
    · next hnext => exact h.earlier k hnext
    · next hend =>
      have hk' : k = operands.length - 1 := by omega
      rw [hk', h.last, List.take_of_length_le (by omega)]

/-- Where no operand is longer than the one before it, all are read at the place of the item. -/
theorem ReadAt.eq_of_falling (hfalling : operands.Pairwise fun xs ys => ys.length ≤ xs.length)
    {i : Nat} (hi : i < longest operands) {place : Nat → Nat} (h : ReadAt operands i place)
    {k : Nat} (hk : k < operands.length) : place k = i := by
  -- The longest length is that of the first operand all along, so no remainder is taken.
  have hlongest (n : Nat) : longest (operands.take (n + 1)) = longest operands := by
    cases operands with
    | nil => simp
    | cons xs rest =>
      have hrest := (List.pairwise_cons.1 hfalling).1
      rw [List.take_succ_cons, longest_cons_of_le hrest, longest_cons_of_le]
      intro ys hys
      exact hrest ys (List.mem_of_mem_take hys)
  have hback (d : Nat) (hd : d < operands.length) : place (operands.length - 1 - d) = i := by
    induction d with
    | zero => exact h.last
    | succ d ih =>
      have hstep := h.earlier (operands.length - 1 - (d + 1)) (by omega)
      have hnext : operands.length - 1 - (d + 1) + 1 = operands.length - 1 - d := by omega
      rw [hstep, hlongest, hnext, ih (by omega), Nat.mod_eq_of_lt hi]
  have hplace := hback (operands.length - 1 - k) (by omega)
  rwa [show operands.length - 1 - (operands.length - 1 - k) = k by omega] at hplace

end Longest

section Join

/-- An operand that leaves the others as they are. -/
def Blank (items : List String) : Prop := items = [] ∨ items = [""]

variable {joined operand : List String} {operands : List (List String)}

theorem joinItems_blank (h : Blank operand) : joinItems joined operand = joined := by
  have hskip : (operand.isEmpty || operand == [""]) = true := by
    rcases h with rfl | rfl
    · rfl
    · rfl
  simp [joinItems, hskip]

theorem joinItems_nil (h : ¬ Blank operand) : joinItems [] operand = operand := by
  obtain ⟨hne, htext⟩ := not_or.1 h
  simp [joinItems, hne, htext]

theorem joinItems_of_ne_nil (h : ¬ Blank operand) (hjoined : joined ≠ []) :
    joinItems joined operand =
      (List.range (max joined.length operand.length)).map fun i =>
        joined.getD (i % joined.length) "" ++ operand.getD (i % operand.length) "" := by
  obtain ⟨hne, htext⟩ := not_or.1 h
  simp [joinItems, hne, htext, hjoined]

theorem length_joinItems (h : ¬ Blank operand) :
    (joinItems joined operand).length = max joined.length operand.length := by
  by_cases hjoined : joined = []
  · simp [hjoined, joinItems_nil h]
  · simp [joinItems_of_ne_nil h hjoined]

/-- Blank operands can be left out of a joining, wherever they stand. -/
theorem foldl_joinItems_filter (operands : List (List String)) (joined : List String) :
    operands.foldl joinItems joined =
      (operands.filter fun xs => xs ≠ [] ∧ xs ≠ [""]).foldl joinItems joined := by
  induction operands generalizing joined with
  | nil => rfl
  | cons operand rest ih =>
    by_cases hblank : Blank operand
    · have hout : ¬ (operand ≠ [] ∧ operand ≠ [""]) := by
        rw [← not_or]
        exact not_not_intro hblank
      rw [List.foldl_cons, joinItems_blank hblank, List.filter_cons_of_neg (by simpa using hout), ih]
    · have hin : operand ≠ [] ∧ operand ≠ [""] := not_or.1 hblank
      rw [List.filter_cons_of_pos (by simpa using hin), List.foldl_cons, List.foldl_cons, ih]

theorem foldl_joinItems_concat (operands : List (List String)) (operand : List String) :
    (operands ++ [operand]).foldl joinItems [] =
      joinItems (operands.foldl joinItems []) operand := by
  rw [List.foldl_append, List.foldl_cons, List.foldl_nil]

theorem length_foldl_joinItems (h : ∀ xs ∈ operands, ¬ Blank xs) :
    (operands.foldl joinItems []).length = longest operands := by
  induction operands using List.reverseRecOn with
  | nil => rfl
  | append_singleton operands operand ih =>
    have hfront : ∀ xs ∈ operands, ¬ Blank xs := fun xs hxs => h xs (by simp [hxs])
    rw [foldl_joinItems_concat, length_joinItems (h operand (by simp)), ih hfront, longest_concat]

theorem foldl_joinItems_ne_nil (h : ∀ xs ∈ operands, ¬ Blank xs) (hne : operands ≠ []) :
    operands.foldl joinItems [] ≠ [] := by
  obtain hnil | ⟨front, operand, rfl⟩ := List.eq_nil_or_concat' operands
  · exact absurd hnil hne
  · have hlast := h operand (by simp)
    have hpos : 0 < operand.length := List.length_pos_iff.2 fun hnil => hlast (.inl hnil)
    apply List.ne_nil_of_length_pos
    rw [foldl_joinItems_concat, length_joinItems hlast]
    omega

theorem pieced_concat (operands : List (List String)) (operand : List String) (place : Nat → Nat) :
    pieced (operands ++ [operand]) place =
      pieced operands place ++ operand.getD (place operands.length % operand.length) "" := by
  simp [pieced, List.mapIdx_append]

theorem pieced_congr {place place' : Nat → Nat} (h : ∀ k < operands.length, place k = place' k) :
    pieced operands place = pieced operands place' := by
  have hpieces : (operands.mapIdx fun k xs => xs.getD (place k % xs.length) "") =
      operands.mapIdx fun k xs => xs.getD (place' k % xs.length) "" := by
    rw [List.mapIdx_eq_mapIdx_iff]
    intro k hk
    rw [h k hk]
  rw [pieced, hpieces, pieced]

/-- Each item of a joining is put together from its operands at the places it reads. -/
theorem getElem?_foldl_joinItems (h : ∀ xs ∈ operands, ¬ Blank xs) (hne : operands ≠ []) {i : Nat}
    (hi : i < longest operands) :
    ∃ place, ReadAt operands i place ∧
      (operands.foldl joinItems [])[i]? = some (pieced operands place) := by
  induction operands using List.reverseRecOn generalizing i with
  | nil => exact absurd rfl hne
  | append_singleton operands operand ih =>
    have hfront : ∀ xs ∈ operands, ¬ Blank xs := fun xs hxs => h xs (by simp [hxs])
    have hlast := h operand (by simp)
    rw [longest_concat] at hi
    rw [foldl_joinItems_concat]
    by_cases hfirst : operands = []
    · subst hfirst
      have hlt : i < operand.length := by simpa [longest] using hi
      refine ⟨fun _ => i, ⟨rfl, by simp⟩, ?_⟩
      rw [List.foldl_nil, joinItems_nil hlast]
      simp [pieced, Nat.mod_eq_of_lt hlt, hlt]
    · have hjoined := foldl_joinItems_ne_nil hfront hfirst
      have hlength := length_foldl_joinItems hfront
      have hpos : 0 < longest operands := hlength ▸ List.length_pos_iff.2 hjoined
      obtain ⟨place, hplace, hitem⟩ := ih hfront hfirst (Nat.mod_lt i hpos)
      refine ⟨_, hplace.concat operand, ?_⟩
      rw [joinItems_of_ne_nil hlast hjoined, hlength, List.getElem?_map, List.getElem?_range hi,
        Option.map_some, List.getD_eq_getElem?_getD, hitem, pieced_concat]
      have hsame : pieced operands place =
          pieced operands fun k => if k < operands.length then place k else i := by
        apply pieced_congr
        intro k hk
        rw [if_pos hk]
      simp [← hsame]

end Join

section Operands

theorem mapM_of_forall₂ {α β : Type} {f : α → Except Fault β} {xs : List α} {ys : List β}
    (h : List.Forall₂ (fun x y => f x = .ok y) xs ys) : xs.mapM f = .ok ys := by
  induction h with
  | nil => rfl
  | cons hfirst _ ih =>
    rw [List.mapM_cons, hfirst, ih]
    rfl

variable {rhs : String} {s : Store} {operands : List (List String)}

theorem wordJoin_of_operands (hterms : 2 ≤ (Text.splitAround '+' rhs).length)
    (h : List.Forall₂ (ListItems s) ((Text.splitAround '+' rhs).map Text.trim) operands) (l : Line) :
    wordJoin rhs l s = .ok (operands.foldl joinItems []) := by
  have hresolved : ((Text.splitAround '+' rhs).map Text.trim).mapM (listOperand l s) =
      .ok operands := by
    apply mapM_of_forall₂
    refine h.imp ?_
    intro term items hitems
    exact (listTerm_eq_ok_iff _ l s term items).2 hitems
  have hmany : ¬ (Text.splitAround '+' rhs).length < 2 := by omega
  simp only [wordJoin, List.length_map, if_neg hmany, hresolved]
  rfl

end Operands

/-- A joining of at least two operands, of which those that are empty or hold only the empty text do
not count. If none counts, the joining is empty. Otherwise it is as long as the longest, and each item
is put together from one piece of each operand: of the last at the place of the item, of the others at
what is left of that place when it is taken around, from operand to operand, by the longest length so
far. So if no operand is longer than the one before it, all are read at the place of the item. -/
theorem joinings_read_in_rounds {rhs : String} {s : Store} {operands : List (List String)}
    (hterms : 2 ≤ (Text.splitAround '+' rhs).length)
    (h : List.Forall₂ (ListItems s) ((Text.splitAround '+' rhs).map Text.trim) operands) (l : Line)
    (c : Chance) :
    let counted := operands.filter fun xs => xs ≠ [] ∧ xs ≠ [""]
    ∃ joined, evaluate .join rhs l s c = (.ok (.list joined), c) ∧
      (counted = [] → joined = []) ∧
      (counted ≠ [] → joined.length = longest counted ∧
        ∀ i < joined.length, ∃ place, ReadAt counted i place ∧
          joined[i]? = some (pieced counted place)) ∧
      (counted.Pairwise (fun xs ys => ys.length ≤ xs.length) →
        ∀ i < joined.length, joined[i]? = some (pieced counted fun _ => i)) := by
  intro counted
  have hjoin : wordJoin rhs l s = .ok (counted.foldl joinItems []) := by
    rw [wordJoin_of_operands hterms h, foldl_joinItems_filter]
  have hfull : ∀ xs ∈ counted, ¬ Blank xs := by
    intro xs hxs
    exact not_or.2 (by simpa using List.of_mem_filter hxs)
  have hlength := length_foldl_joinItems hfull
  have hitems (i : Nat) (hi : i < (counted.foldl joinItems []).length) :
      ∃ place, ReadAt counted i place ∧
        (counted.foldl joinItems [])[i]? = some (pieced counted place) := by
    have hne : counted ≠ [] := by
      intro hnil
      simp [hnil] at hi
    exact getElem?_foldl_joinItems hfull hne (hlength ▸ hi)
  refine ⟨counted.foldl joinItems [], ?_, ?_, fun _ => ⟨hlength, hitems⟩, ?_⟩
  · rw [evaluate_of_not_selection (by simp [selects]), evaluateFixed, hjoin]
    rfl
  · intro hnil
    rw [hnil]
    rfl
  · intro hfalling i hi
    obtain ⟨place, hplace, hitem⟩ := hitems i hi
    rw [hitem]
    congr 1
    apply pieced_congr
    intro k hk
    exact hplace.eq_of_falling hfalling (hlength ▸ hi) hk

/-- Three, two and five items around a blank operand. The fifth item of the joining comes around to the
second place of the three, so it takes the second piece of the two as well, and not the first. -/
theorem joinings_read_in_rounds_letters :
    let letters : List (List String) := [["a", "b", "c"], ["x", "y"], ["1", "2", "3", "4", "5"]]
    let s : Store :=
      { Store.ofFolders .empty .empty with
        userVars := .ofEntries [("three", .list ["a", "b", "c"]), ("two", .list ["x", "y"]),
          ("five", .list ["1", "2", "3", "4", "5"])] }
    let rhs := "three + \"\" + two + five"
    2 ≤ (Text.splitAround '+' rhs).length ∧
    ∀ (l : Line) (c : Chance), ∃ joined, evaluate .join rhs l s c = (.ok (.list joined), c) ∧
      joined.length = longest letters ∧ longest letters = 5 ∧ joined[4]? = some "by5" := by
  intro letters s rhs
  have hsplit : (Text.splitAround '+' rhs).map Text.trim = ["three", "\"\"", "two", "five"] := by
    decide +kernel
  have hterms : 2 ≤ (Text.splitAround '+' rhs).length := by decide +kernel
  have hnamed {name : String} {items : List String} (hplain : Text.quoted? name = none)
      (hlower : Text.lower name = name) (hslot : s.locate name .all = some .user)
      (hread : s.read name .user = some (.list items)) : ListItems s name items := by
    refine .named hplain ?_
    simp only [Store.lookup, hlower, hslot, Option.bind_some, hread]
  have hthree : ListItems s "three" ["a", "b", "c"] :=
    hnamed (by decide +kernel) (by decide +kernel) (by decide +kernel) rfl
  have htwo : ListItems s "two" ["x", "y"] :=
    hnamed (by decide +kernel) (by decide +kernel) (by decide +kernel) rfl
  have hfive : ListItems s "five" ["1", "2", "3", "4", "5"] :=
    hnamed (by decide +kernel) (by decide +kernel) (by decide +kernel) rfl
  have hblank : ListItems s "\"\"" [""] := .literal (by decide +kernel)
  have hitems : List.Forall₂ (ListItems s) ((Text.splitAround '+' rhs).map Text.trim)
      [["a", "b", "c"], [""], ["x", "y"], ["1", "2", "3", "4", "5"]] := by
    rw [hsplit]
    exact .cons hthree (.cons hblank (.cons htwo (.cons hfive .nil)))
  refine ⟨hterms, ?_⟩
  intro l c
  obtain ⟨joined, hvalue, -, hfull, -⟩ := joinings_read_in_rounds hterms hitems l c
  obtain ⟨hlength, hitem⟩ := hfull (by decide)
  obtain ⟨place, hplace, hread⟩ := hitem 4 (by rw [hlength]; decide)
  have hlast : place 2 = 4 := hplace.last
  have hsecond : place 1 = place 2 % 3 := hplace.earlier 1 (by decide)
  have hfirst : place 0 = place 1 % 3 := hplace.earlier 0 (by decide)
  refine ⟨joined, hvalue, hlength, rfl, ?_⟩
  rw [hread]
  change some (pieced letters place) = some "by5"
  simp [pieced, letters, hfirst, hsecond, hlast]

end ProseScript.Expression
