import ProseScript.Chance

/-!
Samples without repetition, and the walk over sentence places.
-/

namespace ProseScript.Sampling

variable {α : Type} [DecidableEq α]

/-- The items that are not excluded. -/
def available (source exclude : List α) : List α := source.filter fun x => !exclude.contains x

/-- Takes an item out; the last item moves into its place. -/
def swapRemove (pool : List α) (i : Nat) : List α :=
  match pool.getLast? with
  | none => []
  | some last => (pool.set i last).dropLast

/-- Draws up to `count` items. With each, all items equal to it leave the pool. -/
def takeFrom : Nat → List α → Chance → List α × Chance
  | 0, _, c => ([], c)
  | count + 1, pool, c =>
      if pool.isEmpty then ([], c)
      else
        let (i, c) := c.uniform .long 0 (pool.length - 1)
        match pool[i]? with
        | none => ([], c)
        | some x =>
            let (xs, c) := takeFrom count ((swapRemove pool i).filter (· ≠ x)) c
            (x :: xs, c)

/-- Up to `count` different items of `source`, none of them excluded. -/
def unique (source : List α) (count : Nat) (exclude : List α) (c : Chance) : List α × Chance :=
  takeFrom count (available source exclude) c

/-- One item of `source` that is not excluded. -/
def one (source exclude : List α) (c : Chance) : Option α × Chance :=
  c.choose (available source exclude)

/-- The place after `current`: the next one when `ordered`, else any place but the current one.
A single place is its own successor. -/
def nextIndex (current size : Nat) (ordered : Bool) (c : Chance) : Nat × Chance :=
  if ordered then (current + 1, c)
  else if size ≤ 1 then (0, c)
  else
    let (pick, c) := c.uniform .long 0 (size - 2)
    (if current % size ≤ pick then pick + 1 else pick, c)

end ProseScript.Sampling
