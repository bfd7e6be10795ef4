/-!
Tables: named entries in the order of their arrival. Main statements: an inserted key reads as
inserted, and every other key as before.
-/

namespace ProseScript

structure Table (α : Type) where
  entries : List (String × α)
  deriving DecidableEq, Repr

namespace Table

variable {α : Type}

def empty : Table α := ⟨[]⟩

def size (t : Table α) : Nat := t.entries.length

def isEmpty (t : Table α) : Bool := t.entries.isEmpty

def keys (t : Table α) : List String := t.entries.map Prod.fst

def get? (t : Table α) (key : String) : Option α := t.entries.lookup key

def contains (t : Table α) (key : String) : Bool := (t.get? key).isSome

/-- Replaces the entry of a key where it stands, or puts a new entry at the end. -/
def put (key : String) (a : α) : List (String × α) → List (String × α)
  | [] => [(key, a)]
  | e :: rest => if e.1 = key then (key, a) :: rest else e :: put key a rest

/-- Leaves out the first entry of a key. -/
def drop (key : String) : List (String × α) → List (String × α)
  | [] => []
  | e :: rest => if e.1 = key then rest else e :: drop key rest

/-- A key that is present keeps its place; a new one goes to the end. -/
def insert (t : Table α) (key : String) (a : α) : Table α := ⟨put key a t.entries⟩

def erase (t : Table α) (key : String) : Table α := ⟨drop key t.entries⟩

/-- Inserts every entry of another table, in order. -/
def merge (t u : Table α) : Table α := u.entries.foldl (fun t e => t.insert e.1 e.2) t

def ofEntries (entries : List (String × α)) : Table α := merge empty ⟨entries⟩

/-- Leaves out every key of a list. -/
def eraseAll (t : Table α) (keys : List String) : Table α := keys.foldl erase t

/-- A look-up tries the first entry and then the rest. -/
theorem lookup_cons_ite (k n : String) (x : α) (rest : List (String × α)) :
    List.lookup k ((n, x) :: rest) = if k = n then some x else List.lookup k rest := by
  by_cases h : k = n
  · simp [h]
  · simp [List.lookup_cons, beq_false_of_ne h, h]

theorem get?_insert (t : Table α) (key k : String) (a : α) :
    (t.insert key a).get? k = if k = key then some a else t.get? k := by
  obtain ⟨es⟩ := t
  simp only [get?, insert]
  induction es with
  | nil => simp [put, lookup_cons_ite]
  | cons e rest ih =>
    obtain ⟨n, x⟩ := e
    simp only [put]
    split <;> simp only [lookup_cons_ite, ih] <;> grind

@[simp] theorem get?_insert_self (t : Table α) (key : String) (a : α) :
    (t.insert key a).get? key = some a := by
  simp [get?_insert]

@[simp] theorem get?_empty (key : String) : (empty : Table α).get? key = none := rfl

/-- The keys after an insertion are the earlier ones, and the new one if it was absent. -/
theorem keys_insert (t : Table α) (key : String) (a : α) :
    (t.insert key a).keys = if key ∈ t.keys then t.keys else t.keys ++ [key] := by
  obtain ⟨es⟩ := t
  simp only [keys, insert]
  induction es with
  | nil => simp [put]
  | cons e rest ih =>
    simp only [put]
    split
    · next h => simp [h]
    · next h =>
      have : key ≠ e.1 := fun h' => h h'.symm
      simp only [List.map_cons, ih, List.mem_cons, this, false_or]
      split <;> simp_all

end Table

/-- A catalog holds one word list under each of its keys. -/
abbrev Catalog := Table (List String)

end ProseScript
