import Mathlib.Data.List.Rotate
import ProseScript.Proofs.Group
import ProseScript.Run.Cast

/-!
Shifts around a group. Main statement: a shift counts on around the members, so that shifts add up and
undo one another, and shifts by one come past every member once before they are back.
-/

namespace ProseScript.Group

open scoped List

/-- The place that a number comes to, counted around so many places. -/
def around (size : Nat) (x : Int) : Nat := (x % size).toNat

section Around

variable {size : Nat}

theorem cast_around (h : 0 < size) (x : Int) : (around size x : Int) = x % size := by
  have hnonneg := Int.emod_nonneg x (b := size) (by omega)
  exact Int.toNat_of_nonneg hnonneg

theorem around_lt (h : 0 < size) (x : Int) : around size x < size := by
  have hlt := Int.emod_lt_of_pos x (b := size) (by omega)
  have hcast := cast_around h x
  omega

theorem around_cast (size i : Nat) : around size i = i % size := rfl

theorem around_add (h : 0 < size) (x y : Int) :
    around size (around size x + y) = around size (x + y) := by
  rw [around, cast_around h, Int.emod_add_emod, around]

end Around

variable {g : Group} {p : Nat}

theorem shift_eq (hp : g.pointer = some p) (hpos : 0 < g.members.length) (a : Int) :
    g.shift a = .ok { g with pointer := some (around g.members.length (p + a)) } := by
  have hsome : g.members.isEmpty = false := by
    simpa using List.ne_nil_of_length_pos hpos
  simp [shift, hsome, hp, around]

/-- A shift of a shifted group is one shift by both offsets. -/
theorem shift_bind_shift (hp : g.pointer = some p) (hpos : 0 < g.members.length) (a b : Int) :
    (g.shift a >>= fun h => h.shift b) = g.shift (a + b) := by
  have hplace : around g.members.length (around g.members.length (p + a) + b) =
      around g.members.length (p + (a + b)) := by
    rw [around_add hpos, Int.add_assoc]
  rw [shift_eq hp hpos, shift_eq hp hpos, ← hplace]
  exact shift_eq (g := { g with pointer := some _ }) rfl hpos b

/-- A shift by whole rounds changes nothing. -/
theorem shift_mul_length (hp : g.pointer = some p) (hlt : p < g.members.length) (k : Int) :
    g.shift (k * g.members.length) = .ok g := by
  have hplace : around g.members.length (p + k * g.members.length) = p := by
    rw [around, Int.add_mul_emod_self_right, ← around, around_cast, Nat.mod_eq_of_lt hlt]
  rw [shift_eq hp (by omega), hplace, ← hp]

/-- The groups that shifts by one come to, one after the other. -/
def tour : Nat → Group → Except PointerFault (List Group)
  | 0, _ => .ok []
  | k + 1, g => do
      let next ← g.shift 1
      let rest ← tour k next
      return next :: rest

theorem tour_eq (hp : g.pointer = some p) (hpos : 0 < g.members.length) (k : Nat) :
    tour k g = .ok ((List.range k).map fun j =>
      { g with pointer := some ((p + 1 + j) % g.members.length) }) := by
  induction k generalizing g p with
  | zero => rfl
  | succ k ih =>
    have hplace : around g.members.length (p + 1) = (p + 1) % g.members.length := around_cast ..
    have hrest := ih (g := { g with pointer := some ((p + 1) % g.members.length) }) rfl hpos
    simp only [tour, shift_eq hp hpos, hplace]
    change (tour k { g with pointer := some ((p + 1) % g.members.length) } >>= _) = _
    rw [hrest, List.range_succ_eq_map]
    change Except.ok _ = _
    congr 2
    rw [List.map_map]
    apply List.map_congr_left
    intro j _
    simp only [Function.comp_apply, Nat.succ_eq_add_one, Group.mk.injEq, Option.some.injEq, true_and]
    rw [Nat.add_assoc, Nat.mod_add_mod]
    congr 1
    omega

/-- Places counted around from one of them are those of the rotated row. -/
theorem map_getElem?_around {α : Type} (xs : List α) (d : Nat) :
    (List.range xs.length).map (fun j => xs[(d + j) % xs.length]?) = (xs.rotate d).map some := by
  apply List.ext_getElem
  · simp
  · intro j hj _
    simp [List.getElem_rotate, Nat.add_comm d j]

/-- As many shifts by one as there are members come to each of them once, and back. -/
theorem exists_tour (hp : g.pointer = some p) (hlt : p < g.members.length) :
    ∃ stops, tour g.members.length g = .ok stops ∧
      stops.map pointer ~ (List.range g.members.length).map some ∧
      stops.map active? ~ g.members.map some ∧ stops.getLast? = some g := by
  have hpos : 0 < g.members.length := by omega
  refine ⟨_, tour_eq hp hpos _, ?_, ?_, ?_⟩
  · have hplaces := map_getElem?_around (List.range g.members.length) (p + 1)
    have hpointers : (List.range g.members.length).map
        (fun j => some ((p + 1 + j) % g.members.length)) =
          ((List.range g.members.length).rotate (p + 1)).map some := by
      rw [← hplaces, List.length_range]
      apply List.map_congr_left
      intro j _
      rw [List.getElem?_range (Nat.mod_lt _ hpos)]
    rw [List.map_map]
    exact hpointers ▸ (List.rotate_perm _ _).map some
  · have hmembers := map_getElem?_around g.members (p + 1)
    rw [List.map_map]
    exact hmembers ▸ (List.rotate_perm _ _).map some
  · obtain ⟨k, hk⟩ : ∃ k, g.members.length = k + 1 := ⟨g.members.length - 1, by omega⟩
    have hback : (p + 1 + k) % g.members.length = p := by
      rw [Nat.add_assoc, Nat.add_comm 1 k, ← hk, Nat.add_mod_right, Nat.mod_eq_of_lt hlt]
    rw [hk, List.range_succ, List.map_append, List.map_singleton, List.getLast?_concat, ← hk, hback,
      ← hp]

theorem shift_of_nil (hempty : g.members = []) (a : Int) : g.shift a = .error .emptyGroup := by
  simp [shift, hempty]

/-- A line that would shift an empty group adds a warning and does nothing else. -/
theorem shiftGroup_of_nil {l : Line} {name : String} {s : State} (hplain : '.' ∉ name.toList)
    (hg : s.store.group? name = some g) (hempty : g.members = []) (a : Int) :
    ∃ w : Warning, w.severity = .severe ∧ Run.shiftGroup l name a s = .ok (s.warn w) := by
  refine ⟨(Warning.severe ("referenced gen " ++ name ++
    " is empty or its pointer is undefined")).on l, rfl, ?_⟩
  simp [Run.shiftGroup, hplain, hg, shift_of_nil hempty]

/-- Shifts act on a group by counting around its members. A shift moves the pointer by its offset and
keeps the members; shifts add up; whole rounds and opposite shifts lead back; and as many shifts by
one as there are members come to each of them once and end at the first pointer. An empty group is
not shifted, and a line that asks for it only warns. -/
theorem shifts_go_around :
    (∀ (g : Group) (p : Nat), g.pointer = some p → p < g.members.length →
      (∀ a : Int, ∃ q, g.shift a = .ok { g with pointer := some q } ∧ q < g.members.length ∧
        (q : Int) = (p + a) % g.members.length) ∧
      (∀ a b : Int, (g.shift a >>= fun h => h.shift b) = g.shift (a + b)) ∧
      (∀ k : Int, g.shift (k * g.members.length) = .ok g) ∧
      (∀ a : Int, (g.shift a >>= fun h => h.shift (-a)) = .ok g) ∧
      ∃ stops, tour g.members.length g = .ok stops ∧
        stops.map pointer ~ (List.range g.members.length).map some ∧
        stops.map active? ~ g.members.map some ∧ stops.getLast? = some g) ∧
    ∀ (g : Group) (a : Int), g.members = [] → g.shift a = .error .emptyGroup ∧
      ∀ (l : Line) (name : String) (s : State), '.' ∉ name.toList →
        s.store.group? name = some g →
        ∃ w : Warning, w.severity = .severe ∧ Run.shiftGroup l name a s = .ok (s.warn w) := by
  constructor
  · intro g p hp hlt
    have hpos : 0 < g.members.length := by omega
    refine ⟨?_, shift_bind_shift hp hpos, shift_mul_length hp hlt, ?_, exists_tour hp hlt⟩
    · intro a
      exact ⟨_, shift_eq hp hpos a, around_lt hpos _, cast_around hpos _⟩
    · intro a
      have hround := shift_mul_length hp hlt 0
      rw [Int.zero_mul] at hround
      rw [shift_bind_shift hp hpos, Int.add_right_neg, hround]
  · intro g a hempty
    refine ⟨shift_of_nil hempty a, ?_⟩
    intro l name s hplain hg
    exact shiftGroup_of_nil hplain hg hempty a

/-- Three members that are all alike, from the last one backwards past the first; and no members. -/
theorem shifts_go_around_crew :
    let g : Group := ⟨[.blank, .blank, .blank], some 2⟩
    (∃ q : Nat, g.shift (-7) = .ok { g with pointer := some q } ∧ q < 3 ∧
      (q : Int) = (2 + -7) % 3) ∧
    (g.shift (-7) >>= fun h => h.shift 5) = g.shift (-7 + 5) ∧ g.shift (-4 * 3) = .ok g ∧
    (∃ stops, tour 3 g = .ok stops ∧ stops.map pointer ~ [some 0, some 1, some 2] ∧
      stops.getLast? = some g) ∧
    (⟨[], none⟩ : Group).shift 1 = .error .emptyGroup := by
  intro g
  obtain ⟨hshift, hadd, hrounds, -, stops, htour, hpointers, -, hlast⟩ :=
    shifts_go_around.1 g 2 rfl (by decide)
  exact ⟨hshift (-7), hadd (-7) 5, hrounds (-4), ⟨stops, htour, hpointers, hlast⟩,
    (shifts_go_around.2 ⟨[], none⟩ 1 rfl).1⟩

end ProseScript.Group
