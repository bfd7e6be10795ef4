/-!
Entities: records of word lists, equal when all their fields are.
-/

namespace ProseScript

/-- The fields of an entity, in ascending order of their names. -/
structure Entity where
  fields : List (String × List String)
  deriving DecidableEq, Repr

namespace Entity

def blank : Entity := ⟨[]⟩

def get? (e : Entity) (name : String) : Option (List String) := e.fields.lookup name

def has (e : Entity) (name : String) : Bool := (e.get? name).isSome

/-- Sets one field among ascending fields. -/
def place (name : String) (items : List String) :
    List (String × List String) → List (String × List String)
  | [] => [(name, items)]
  | f :: rest =>
      if f.1 = name then (name, items) :: rest
      else if name < f.1 then (name, items) :: f :: rest
      else f :: place name items rest

def set (e : Entity) (name : String) (items : List String) : Entity := ⟨place name items e.fields⟩

/-- An entity with the given fields; of two equal names the later counts. -/
def ofFields (fields : List (String × List String)) : Entity :=
  fields.foldl (fun e f => e.set f.1 f.2) blank

theorem get?_set_self (e : Entity) (name : String) (items : List String) :
    (e.set name items).get? name = some items := by
  obtain ⟨fs⟩ := e
  simp only [get?, set]
  induction fs with
  | nil => simp [place]
  | cons f rest ih =>
    obtain ⟨n, xs⟩ := f
    simp only [place]
    split
    · simp
    · next h =>
      have : (name == n) = false := beq_false_of_ne fun h' => h h'.symm
      split <;> simp [List.lookup_cons, this, ih]

theorem get?_set_of_ne (e : Entity) {name other : String} (items : List String)
    (h : other ≠ name) : (e.set name items).get? other = e.get? other := by
  obtain ⟨fs⟩ := e
  have hne : (other == name) = false := beq_false_of_ne h
  simp only [get?, set]
  induction fs with
  | nil => simp [place, List.lookup_cons, hne]
  | cons f rest ih =>
    obtain ⟨n, xs⟩ := f
    simp only [place]
    split
    · next hn =>
      have hn' : n = name := hn
      simp [List.lookup_cons, hne, hn']
    · split
      · simp [List.lookup_cons, hne]
      · simp [List.lookup_cons, ih]

end Entity

end ProseScript
