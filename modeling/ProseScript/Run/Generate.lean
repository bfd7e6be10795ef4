import ProseScript.Expression
import ProseScript.Run.State

/-!
`GEN name [amount] [gender set]`: makes a group of entities. Each body line
`field amount source [ALLUNIQUE]` gives every member a sample of a list.
-/

namespace ProseScript.Run

def overwriteWarning (name : String) : Warning :=
  .mild ("assigning variable " ++ name ++ " - variable already exists. Data will be overwritten")

/-- An entity of a gender: a name, if one is left, and the gender's word forms. -/
def genderedEntity (p : GenderProfile) (name : Option String) : Entity :=
  p.pronouns.forms.foldl (fun e f => e.set f.1 f.2) (Entity.blank.set "name" name.toList)

/-- Entities of genders drawn from `set`, with names other than the used ones. None if a drawn
gender, or any gender, is missing. -/
def genderedEntities (genders : Genders) (set : List String) :
    Nat → List String → Chance → Option (List Entity × Chance)
  | 0, _, c => some ([], c)
  | n + 1, used, c =>
      let (gender, c) := c.choose set
      match gender.bind genders.profiles.get? with
      | none => none
      | some p =>
          let (name, c) := Sampling.one p.names used c
          match genderedEntities genders set n (used ++ name.toList) c with
          | none => none
          | some (members, c) => some (genderedEntity p name :: members, c)

/-- Gives every member a sample of `source`; when `distinct`, members share no items. -/
def fillMembers (field : String) (count : Nat) (source : List String) (distinct : Bool) :
    List Entity → List String → Chance → List Entity × Chance
  | [], _, c => ([], c)
  | e :: rest, taken, c =>
      let (picked, c) := Sampling.unique source count taken c
      let (rest, c) :=
        fillMembers field count source distinct rest (if distinct then taken ++ picked else taken) c
      (e.set field picked :: rest, c)

/-- The last word of a field line, if any, must ask for distinct items. -/
def wantsDistinct (l : Line) : Option String → Except Fault Bool
  | none => .ok false
  | some flag =>
      if Text.sameWord flag "allunique" then .ok true
      else .error ((Fault.parameterValue l "ALLUNIQUE" flag).inCommand "GEN")

/-- The list a field line draws from. -/
def fieldSource (l : Line) (s : State) (name : String) : Except Fault (List String) :=
  match s.lookup name with
  | none => .error ((Fault.unknownVariable l name).inCommand "GEN")
  | some (.list items) => .ok items
  | some v => .error ((Fault.typeMismatch l name "list" v.kind.name).inCommand "GEN")

/-- The number of items a field line gives, drawn if it is a range. -/
def fieldCount (l : Line) (c : Chance) (text : String) : Except Fault (Nat × Chance) :=
  match Amount.ofCount? text with
  | none =>
      .error ((Fault.parameterValue l "a valid number or numeric range in second argument"
        text).inCommand "GEN")
  | some amount =>
      let (count, c) := amount.resolve c
      if count = 0 then .error ((Fault.parameterValue l "a non-zero number" "0").inCommand "GEN")
      else .ok (count, c)

/-- Runs one field line over the members. -/
def fillField (l : Line) (members : List Entity) (s : State) : Except Fault (List Entity × State) :=
  if l.isIdle then .ok (members, s)
  else
    let words := Text.words l.text
    match words with
    | fieldWord :: countWord :: sourceWord :: flags =>
        if 1 < flags.length then
          .error ((Fault.parameterCount l "3 - 4 parameters" words.length).inCommand "GEN")
        else do
          let field := Text.lower fieldWord
          let s := if (members.head?.map fun e => e.has field).getD false then
              s.warn (((overwriteWarning field).on l).inCommand "GEN")
            else s
          let (count, chance) ← fieldCount l s.chance countWord
          let distinct ← wantsDistinct l flags[0]?
          let source ← fieldSource l s (Text.lower sourceWord)
          let (members, chance) := fillMembers field count source distinct members [] chance
          return (members, { s with chance })
    | _ => .error ((Fault.parameterCount l "3 - 4 parameters" words.length).inCommand "GEN")

/-- Runs the body of a block. Blocks have no place in it. -/
def fillFields : List Node → List Entity → State → Except Fault (List Entity × State)
  | [], members, s => .ok (members, s)
  | .line l :: rest, members, s =>
      match fillField l members { s with current := some l } with
      | .ok (members, s) => fillFields rest members s
      | .error f => .error f
  | .block _ opener _ _ :: _, _, _ =>
      .error ((Fault.on opener .nestedBlock
        "you cannot have nested structures in this location").inCommand "GEN")

/-- The number of members, one unless given. -/
def memberCount (opener : Line) (c : Chance) : Option String → Except Fault (Nat × Chance)
  | none => .ok (1, c)
  | some text =>
      match Amount.ofCount? text with
      | none => .error ((Fault.malformed opener "a number or numeric range").given text)
      | some amount =>
          let (n, c) := amount.resolve c
          if n = 0 then .error (.parameterValue opener "greater than zero" "0") else .ok (n, c)

/-- The members before their fields are filled. -/
def newMembers (opener : Line) (genders : Genders) (n : Nat) (c : Chance) :
    Option String → Except Fault (List Entity × Chance)
  | none => .ok (List.replicate n .blank, c)
  | some word =>
      let name := Text.lower word
      match (genders.sets.get? name).bind fun set => genderedEntities genders set n [] c with
      | some members => .ok members
      | none =>
          .error (.on opener .unknownGender ("desired gender " ++ name ++ " is not defined"))

/-- Stores the members as a group that points at its first. -/
def storeGroup (opener : Line) (name : String) (members : List Entity) (s : Store) :
    Except Fault Store :=
  match s.assign name (.group members) with
  | .error e => .error (e.toFault opener name)
  | .ok s =>
      match (s.group? name).bind fun g => g.pointAt 0 with
      | some g => .ok (s.setGroup name g)
      | none => .ok s

/-- The most members there is room for: each takes 24 bytes of the addresses, which have 63 bits. -/
def memberRoom : Nat := (UInt64.size / 2 - 1) / 24

/-- The `GEN` line asks for more members than there is room for. Room is made once the number is
drawn and the gender set, if any, is found. -/
def overfull (opener : Line) (s : State) : Bool :=
  match opener.paramWords with
  | [] => false
  | word :: options =>
      decide (options.length ≤ 2) && !decide ('.' ∈ (Text.lower word).toList) &&
        match memberCount opener s.chance options[0]? with
        | .error _ => false
        | .ok (n, _) =>
            decide (memberRoom < n) &&
              (options[1]?.all fun set => (s.genders.sets.get? (Text.lower set)).isSome)

/-- Runs a `GEN` block, where there is room for its members. -/
def generate (opener : Line) (body : List Node) (s : State) : Except Fault State :=
  let usage := "a gen name, then an optional amount and gender set"
  match opener.paramWords with
  | [] => .error (.parameterCount opener usage 0)
  | word :: options =>
      if 2 < options.length then .error (.parameterCount opener usage (options.length + 1))
      else
        let name := Text.lower word
        if '.' ∈ name.toList then
          .error ((Fault.malformed opener "a gen name without a period").given name)
        else do
          let s := if (s.store.group? name).isSome then
              s.warn ((overwriteWarning name).on opener)
            else s
          let (n, chance) ← memberCount opener s.chance options[0]?
          let (members, chance) ← newMembers opener s.genders n chance options[1]?
          let (members, s) ← fillFields body members { s with chance }
          let store ← storeGroup opener name members s.store
          return { s with store }

end ProseScript.Run
