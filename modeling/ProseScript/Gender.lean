import ProseScript.Table

/-!
Genders: name pools with pronoun forms, and the named sets that generated entities draw from.
-/

namespace ProseScript

/-- The word forms of one gender, each with its alternatives. -/
structure Pronouns where
  /-- Subject: "she", "they". -/
  heshe : List String
  /-- Object: "her", "them". -/
  himher : List String
  /-- Possessive: "her", "their". -/
  hisher : List String
  /-- Noun: "woman", "person". -/
  manwoman : List String
  /-- Past of "to be". -/
  waswere : List String
  /-- Present of "to be". -/
  isare : List String
  deriving DecidableEq, Repr

namespace Pronouns

/-- The forms by name, in the order in which an entity receives them. -/
def forms (p : Pronouns) : List (String × List String) := [
  ("heshe", p.heshe), ("hisher", p.hisher), ("himher", p.himher),
  ("manwoman", p.manwoman), ("waswere", p.waswere), ("isare", p.isare)]

def get? (p : Pronouns) (name : String) : Option (List String) := p.forms.lookup name

/-- Replaces a form; none if there is no form of that name. -/
def set? (p : Pronouns) (name : String) (items : List String) : Option Pronouns :=
  if name = "heshe" then some { p with heshe := items }
  else if name = "himher" then some { p with himher := items }
  else if name = "hisher" then some { p with hisher := items }
  else if name = "manwoman" then some { p with manwoman := items }
  else if name = "waswere" then some { p with waswere := items }
  else if name = "isare" then some { p with isare := items }
  else none

end Pronouns

structure GenderProfile where
  names : List String
  pronouns : Pronouns
  deriving DecidableEq, Repr

/-- All gender profiles and the named sets of genders. -/
structure Genders where
  profiles : Table GenderProfile
  sets : Table (List String)
  deriving DecidableEq, Repr

inductive GenderFault where
  | unknownGender (name : String)
  | unknownField (name : String)
  deriving DecidableEq, Repr

def GenderFault.message : GenderFault → String
  | unknownGender name => "no such gender defined: " ++ name
  | unknownField name => "unknown gender field: " ++ name

namespace Genders

/-- Replaces the names or one form of a gender. -/
def setField (g : Genders) (gender field : String) (items : List String) :
    Except GenderFault Genders :=
  match g.profiles.get? gender with
  | none => .error (.unknownGender gender)
  | some p =>
      if field = "names" then
        .ok { g with profiles := g.profiles.insert gender { p with names := items } }
      else match p.pronouns.set? field items with
        | none => .error (.unknownField field)
        | some forms =>
            .ok { g with profiles := g.profiles.insert gender { p with pronouns := forms } }

def female : GenderProfile where
  names := ["Ann", "Kayleen", "Marianna", "Roselyn", "Alisa", "Nathalia", "Mylee", "Theresa",
    "Damaris", "Audriana", "Carina", "Pearl", "Mina"]
  pronouns := ⟨["she"], ["her"], ["her"], ["woman"], ["was"], ["is"]⟩

def male : GenderProfile where
  names := ["Lionel", "Alfred", "Lennon", "Theo", "Mervyn", "Trystan", "Antwan", "Ross",
    "Leroy", "Nigel", "Darien", "Keon", "Vaughn"]
  pronouns := ⟨["he"], ["him"], ["his"], ["man"], ["was"], ["is"]⟩

def nonbinary : GenderProfile where
  names := ["Verv", "Stanter", "Ilme", "Apri", "Canter", "Elm", "Valor", "Rallyum", "Rune",
    "Umbra", "Vio", "Xap", "Zylith"]
  pronouns := ⟨["they"], ["them"], ["their"], ["person"], ["were"], ["are"]⟩

def robot : GenderProfile where
  names := ["Splasher", "Sprocket", "Gear", "Equilateral", "Solver", "Cruncher", "Isosceles",
    "Lambda", "Divisor", "Calculus", "Enumerator", "Sensor", "Denominator"]
  pronouns := ⟨["it"], ["it"], ["its"], ["robot"], ["was"], ["is"]⟩

/-- The genders of a run that defines no others. -/
def standard : Genders where
  profiles := ⟨[("female", female), ("male", male), ("nonbinary", nonbinary), ("robot", robot)]⟩
  sets := ⟨[("male", ["male"]), ("female", ["female"]), ("nonbinary", ["nonbinary"]),
    ("robot", ["robot"]), ("binary", ["female", "male"]),
    ("human", ["female", "male", "nonbinary"]),
    ("all", ["female", "male", "nonbinary", "robot"])]⟩

end Genders

end ProseScript
