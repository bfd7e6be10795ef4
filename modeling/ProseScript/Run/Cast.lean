import ProseScript.Expression
import ProseScript.Run.State

/-!
Commands on the cast: moving and mixing groups, redefining genders and reciting lists.
-/

namespace ProseScript.Run

/-- The fault of a command that takes whole groups only. -/
def insideGroup (l : Line) : Fault := (Fault.malformed l "a gen").given "a variable inside a gen"

/-- Moves the pointer of a group. An empty group only raises a warning. -/
def shiftGroup (l : Line) (name : String) (offset : Int) (s : State) : Except Fault State :=
  if '.' ∈ name.toList then .error (insideGroup l)
  else match s.store.group? name with
    | none => .error (.unknownVariable l name)
    | some g =>
        match g.shift offset with
        | .ok g => .ok { s with store := s.store.setGroup name g }
        | .error _ =>
            let warning := Warning.severe
              ("referenced gen " ++ name ++ " is empty or its pointer is undefined")
            .ok (s.warn (warning.on l))

/-- `SHIFT group [offset]` -/
def shift (l : Line) (s : State) : Except Fault State :=
  match l.paramWords with
  | [name] => shiftGroup l (Text.lower name) 1 s
  | [name, text] =>
      match offset? text with
      | none => .error ((Fault.malformed l "a non-zero numerical parameter").given text)
      | some offset => shiftGroup l (Text.lower name) offset s
  | params => .error (.parameterCount l "1 or 2 parameters" params.length)

/-- A move of the pointer of a group does not fit in 64 bits. -/
def overshoots (s : State) (name : String) (offset : Int) : Bool :=
  !decide ('.' ∈ name.toList) && (s.store.group? name).any fun g => g.overshoots offset

/-- The `SHIFT` line asks for a move that does not fit in 64 bits. -/
def overshifts (l : Line) (s : State) : Bool :=
  match l.paramWords with
  | [name] => overshoots s (Text.lower name) 1
  | [name, text] => (offset? text).any fun offset => overshoots s (Text.lower name) offset
  | _ => false

/-- `SHUFFLE group` -/
def shuffle (l : Line) (s : State) : Except Fault State :=
  match l.paramWords with
  | [word] =>
      let name := Text.lower word
      if '.' ∈ name.toList then .error (insideGroup l)
      else match s.store.group? name with
        | none => .error (.unknownVariable l name)
        | some g =>
            let (g, chance) := g.shuffle s.chance
            .ok { s with store := s.store.setGroup name g, chance }
  | params => .error (.parameterCount l "1 parameter" params.length)

/-- Redefines a field of each `gender.field` target in turn. -/
def setGenderFields (l : Line) (items : List String) : List String → Genders → Except Fault Genders
  | [], g => .ok g
  | word :: rest, g =>
      let target := Text.lower word
      match Text.splitDotted target with
      | none => .error ((Fault.malformed l "male.names, female.names, etc").given target)
      | some (gender, field) =>
          match g.setField gender field items with
          | .ok g => setGenderFields l items rest g
          | .error (.unknownGender name) =>
              .error (.on l .unknownGender (GenderFault.unknownGender name).message)
          | .error (.unknownField name) => .error (.unknownVariable l name)

/-- `REFGENDER gender.field... = variable` -/
def refGender (l : Line) (s : State) : Except Fault State :=
  match splitAssignment l.params with
  | none => .error (.malformed l "gender.names = your_variable")
  | some (lhs, rhs) =>
      match Text.words rhs with
      | [word] =>
          let name := Text.lower word
          match s.lookup name with
          | none => .error (.unknownVariable l name)
          | some (.list items) =>
              (setGenderFields l items (Text.words lhs) s.genders).map fun genders =>
                { s with genders }
          | some v =>
              .error (.typeMismatch l name "variable of type list"
                ("variable of type " ++ v.kind.name))
      | _ => .error ((Fault.malformed l "only 1 variable on the right hand side").given rhs)

/-- Items in a row, each after the same opening: "a, b and c". -/
def reciteItems (opening : String) : List String → String
  | [] => ""
  | [x] => opening ++ x
  | [x, y] => opening ++ x ++ " and " ++ opening ++ y
  | x :: y :: rest => opening ++ x ++ ", " ++ reciteItems opening (y :: rest)

def reciteUsage : String :=
  "newvarname = existingvar + prepend-string-literal[optional] + all[optional]"

/-- The last term of a recital, if any, must be the word "all". -/
def reciteLast (l : Line) (opening : String) (all : Bool) :
    List String → Except Fault (String × Bool)
  | [] => .ok (opening, all)
  | term :: _ =>
      if Text.sameWord term "all" then .ok (opening, true)
      else .error (.parameterValue l "the word 'all' at the end, without quotes" term)

/-- The opening and the wish for all members, from the terms after the first. -/
def reciteOptions (l : Line) : List String → Except Fault (String × Bool)
  | [] => .ok ("", false)
  | second :: rest =>
      match Text.quoted? second with
      | some opening => reciteLast l opening false rest
      | none =>
          if Text.sameWord second "all" then reciteLast l "" true rest
          else .error (.parameterValue l
            "a valid string literal in quotes or the word 'all' without quotes" second)

/-- The items to recite: a list, or for all members the field it was taken from. -/
def reciteSource (s : State) (name : String) (all : Bool) (items : List String) : List String :=
  match Text.splitDotted name with
  | some (group, field) =>
      if all then ((s.store.group? group).map fun g => g.fieldAcross field).getD [] else items
  | none => items

/-- `RECITE target... = variable [+ "opening"] [+ all]` -/
def recite (l : Line) (s : State) : Except Fault State :=
  match splitAssignment l.params with
  | none => .error (.malformed l reciteUsage)
  | some (lhs, rhs) =>
      let terms := (Text.splitAround '+' rhs).map Text.trim
      if 3 < terms.length then .error (.malformed l reciteUsage)
      else
        let name := Text.lower (terms.headD "")
        match reciteOptions l terms.tail with
        | .error f => .error f
        | .ok (opening, all) =>
            match s.lookup name with
            | none => .error (.unknownVariable l name)
            | some (.list items) =>
                let unique := (reciteSource s name all items).eraseDups
                let s := if unique.isEmpty then
                    s.warn ((Warning.severe ("empty variable " ++ name)).on l)
                  else s
                match s.store.assignAll l (.list [reciteItems opening unique]) (Text.words lhs) with
                | (store, none) => .ok { s with store }
                | (_, some f) => .error f
            | some v => .error (.typeMismatch l name "a list" v.kind.name)

/-- Runs an assignment line. -/
def assign (style : Style) (l : Line) (s : State) : Except Fault State :=
  match Expression.assign style l s.store s.chance with
  | ((store, none), chance) => .ok { s with store, chance }
  | ((_, some f), _) => .error f

end ProseScript.Run
