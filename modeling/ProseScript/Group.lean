import ProseScript.Chance
import ProseScript.Entity

/-!
Groups: entities in a row with a pointer to the active one.
-/

namespace ProseScript

/-- The pointer is to be absent exactly when there are no members. -/
structure Group where
  members : List Entity
  pointer : Option Nat
  deriving DecidableEq, Repr

/-- Why a pointer cannot be shifted. -/
inductive PointerFault where
  | emptyGroup
  | undefinedPointer
  deriving DecidableEq, Repr

def PointerFault.message : PointerFault → String
  | emptyGroup => "the gen has no members"
  | undefinedPointer => "the gen pointer is undefined"

namespace Group

/-- A group that points at its first member. -/
def ofMembers (members : List Entity) : Group :=
  ⟨members, if members.isEmpty then none else some 0⟩

def active? (g : Group) : Option Entity := g.pointer.bind fun i => g.members[i]?

/-- The group pointing at a member; none if there is no such member. -/
def pointAt (g : Group) (i : Nat) : Option Group :=
  if i < g.members.length then some { g with pointer := some i } else none

/-- Sets a field of the active member; none if there is no active member. -/
def setActive (g : Group) (name : String) (items : List String) : Option Group :=
  match g.pointer with
  | none => none
  | some i =>
      match g.members[i]? with
      | none => none
      | some e => some { g with members := g.members.set i (e.set name items) }

/-- Replaces the members. The pointer follows the active member to the first one equal to it, and
goes to the first member when there is none. -/
def replaceMembers (g : Group) (members : List Entity) : Group :=
  let place := g.active?.bind fun e => members.findIdx? (· == e)
  ⟨members, if members.isEmpty then none else some (place.getD 0)⟩

/-- A field's items over all members, in order. -/
def fieldAcross (g : Group) (name : String) : List String :=
  g.members.flatMap fun e => (e.get? name).getD []

/-- Moves the pointer by an offset, around either end. Sums beyond 64 bits are left out: the sum of
place and offset is that of integers. -/
def shift (g : Group) (offset : Int) : Except PointerFault Group :=
  if g.members.isEmpty then .error .emptyGroup
  else match g.pointer with
    | none => .error .undefinedPointer
    | some i => .ok { g with pointer := some (((i : Int) + offset) % g.members.length).toNat }

/-- The sum that moves the pointer does not fit in 64 bits with its sign. -/
def overshoots (g : Group) (offset : Int) : Bool :=
  let half : Int := (UInt64.size / 2 : Nat)
  !g.members.isEmpty && g.pointer.any fun i =>
    decide ((i : Int) + offset < -half ∨ half ≤ (i : Int) + offset)

/-- Puts the members in a random order; the pointer follows the active one. -/
def shuffle (g : Group) (c : Chance) : Group × Chance :=
  if g.members.length ≤ 1 then (g, c)
  else
    let (members, c) := c.shuffle g.members
    (g.replaceMembers members, c)

@[simp] theorem members_replaceMembers (g : Group) (es : List Entity) :
    (g.replaceMembers es).members = es := rfl

/-- After a replacement the pointer is absent exactly when there are no members. -/
theorem pointer_replaceMembers_eq_none_iff (g : Group) (es : List Entity) :
    (g.replaceMembers es).pointer = none ↔ es = [] := by
  simp [replaceMembers]

end Group

end ProseScript
