/-!
Chance: an endless stream of 32-bit words, used up word by word, and even draws from it.
-/

namespace ProseScript

/-- A stream of words and the number of them used up. -/
@[ext] structure Chance where
  word : Nat → UInt32
  used : Nat

/-- How many bits one raw draw takes. -/
inductive Width where
  | short
  | long
  deriving DecidableEq, Repr

/-- The number of values of a raw draw. -/
def Width.size : Width → Nat
  | short => UInt32.size
  | long => UInt64.size

namespace Chance

/-- The next one or two words as one number, the earlier word below the later. -/
def draw (w : Width) (c : Chance) : Nat × Chance :=
  match w with
  | .short => ((c.word c.used).toNat, { c with used := c.used + 1 })
  | .long =>
      ((c.word c.used).toNat + UInt32.size * (c.word (c.used + 1)).toNat,
        { c with used := c.used + 2 })

/-- Scales a raw draw to `range` values. Draws whose remainder exceeds `zone` would favour some
values and are passed over, up to `tries` of them. -/
def scaled (w : Width) (range zone : Nat) : Nat → Chance → Nat × Chance
  | 0, c =>
      let (v, c) := c.draw w
      (v * range / w.size, c)
  | tries + 1, c =>
      let (v, c) := c.draw w
      if v * range % w.size ≤ zone then (v * range / w.size, c) else scaled w range zone tries c

/-- The highest remainder kept: the range shifted up to the width, less one. -/
def zone (w : Width) (range : Nat) : Nat := range * (w.size / 2 / (1 <<< range.log2)) - 1

/-- Each raw draw is kept with an even chance at least, so this bound is never met in practice. -/
def maxTries : Nat := 4096

/-- An even draw from `lo` to `hi`, both included. -/
def uniform (w : Width) (lo hi : Nat) (c : Chance) : Nat × Chance :=
  let range := (hi - lo + 1) % w.size
  let (v, c) := if range = 0 then c.draw w else scaled w range (zone w range) maxTries c
  (lo + v, c)

/-- An even choice of one item; nothing is drawn when there is none. -/
def choose {α : Type} (xs : List α) (c : Chance) : Option α × Chance :=
  if xs.isEmpty then (none, c)
  else
    let (i, c) := c.uniform .short 0 (xs.length - 1)
    (xs[i]?, c)

/-- Exchanges each place from `i` down to one with an even choice among the places up to it. -/
def shuffleFrom {α : Type} : Nat → Array α → Chance → Array α × Chance
  | 0, xs, c => (xs, c)
  | i + 1, xs, c =>
      let (j, c) := c.uniform .short 0 (i + 1)
      shuffleFrom i (xs.swapIfInBounds (i + 1) j) c

/-- An even choice among the orders of a list. -/
def shuffle {α : Type} (xs : List α) (c : Chance) : List α × Chance :=
  let (ys, c) := shuffleFrom (xs.length - 1) xs.toArray c
  (ys.toList, c)

theorem draw_lt (w : Width) (c : Chance) : (c.draw w).1 < w.size := by
  cases w
  · exact (c.word c.used).toNat_lt
  · have h₀ := (c.word c.used).toNat_lt
    have h₁ := (c.word (c.used + 1)).toNat_lt
    simp only [draw, Width.size, UInt32.size, UInt64.size]
    omega

@[simp] theorem word_draw (w : Width) (c : Chance) : (c.draw w).2.word = c.word := by
  cases w <;> rfl

theorem scaled_lt (w : Width) {range : Nat} (h : 0 < range) (zone tries : Nat) (c : Chance) :
    (scaled w range zone tries c).1 < range := by
  have hw : 0 < w.size := by cases w <;> simp [Width.size]
  have key : (c.draw w).1 * range / w.size < range := by
    rw [Nat.div_lt_iff_lt_mul hw, Nat.mul_comm range]
    exact Nat.mul_lt_mul_of_pos_right (draw_lt w c) h
  induction tries generalizing c with
  | zero => exact key
  | succ tries ih =>
    simp only [scaled]
    split
    · exact key
    · exact ih _ (by
        rw [Nat.div_lt_iff_lt_mul hw, Nat.mul_comm range]
        exact Nat.mul_lt_mul_of_pos_right (draw_lt w _) h)

/-- An even draw lies between its bounds. -/
theorem uniform_mem (w : Width) {lo hi : Nat} (h : lo ≤ hi) (c : Chance) :
    lo ≤ (c.uniform w lo hi).1 ∧ (c.uniform w lo hi).1 ≤ hi := by
  simp only [uniform]
  split
  · next h0 =>
    have hd := draw_lt w c
    have hm : w.size ≤ hi - lo + 1 := Nat.le_of_dvd (by omega) (Nat.dvd_of_mod_eq_zero h0)
    omega
  · next h0 =>
    have hs := scaled_lt w (Nat.pos_of_ne_zero h0) (zone w ((hi - lo + 1) % w.size)) maxTries c
    have hm := Nat.mod_le (hi - lo + 1) w.size
    omega

/-- Something is chosen exactly when there is something to choose from. -/
theorem choose_eq_none_iff {α : Type} (xs : List α) (c : Chance) :
    (c.choose xs).1 = none ↔ xs = [] := by
  cases xs with
  | nil => simp [choose]
  | cons x xs =>
    have h := (uniform_mem .short (Nat.zero_le ((x :: xs).length - 1)) c).2
    simp only [List.length_cons, Nat.add_one_sub_one] at h
    simp [choose]
    omega

theorem mem_of_choose {α : Type} {xs : List α} {c c' : Chance} {x : α}
    (h : c.choose xs = (some x, c')) : x ∈ xs := by
  unfold choose at h
  split at h
  · simp at h
  · exact List.mem_of_getElem? (Prod.mk.inj h).1

end Chance

end ProseScript
