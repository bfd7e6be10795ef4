import ProseScript.Amount
import ProseScript.Command
import ProseScript.Fault
import ProseScript.Sampling
import ProseScript.Store
import ProseScript.Text.Quoted

/-!
Assignments: right-hand sides of lists, catalogs and groups, joined words and case changes, stored
under every name on the left.
-/

namespace ProseScript

/-- How an assignment reads its right-hand side. -/
inductive Style where
  | list
  | catalog
  | group
  | join
  | upper
  | lower
  | upperFirst
  | lowerFirst
  deriving DecidableEq, Repr

def Style.ofCommand? : Command → Option Style
  | .assignList => some list
  | .assignCatalog => some catalog
  | .assignGen => some group
  | .wordJoin => some join
  | .upCase => some upper
  | .lowCase => some lower
  | .supCase => some upperFirst
  | .slowCase => some lowerFirst
  | _ => none

/-- The two sides of an assignment, around its only equals sign between spaces. -/
def splitAssignment (params : String) : Option (String × String) :=
  match Text.splitAround '=' params with
  | [lhs, rhs] =>
      let lhs := Text.trim lhs
      let rhs := Text.trim rhs
      if lhs.isEmpty || rhs.isEmpty then none else some (lhs, rhs)
  | _ => none

namespace Expression

/-- A term is added to what stands before it or taken from it. -/
inductive Sign where
  | plus
  | minus
  deriving DecidableEq, Repr

/-- The signed terms of a right-hand side. In each part between plus signs, the terms after the
first are taken away. -/
def terms (rhs : String) : List (Sign × String) :=
  (Text.splitAround '+' rhs).flatMap fun part =>
    match Text.splitAround '-' part with
    | [] => []
    | first :: rest => (.plus, Text.trim first) :: rest.map fun t => (.minus, Text.trim t)

/-- Resolves the terms and combines their values from left to right. -/
def combine {α β : Type} (resolve : String → Except Fault β) (plus minus : α → β → α) :
    α → List (Sign × String) → Except Fault α
  | acc, [] => .ok acc
  | acc, (sign, term) :: rest =>
      match resolve term with
      | .error f => .error f
      | .ok b =>
          match sign with
          | .plus => combine resolve plus minus (plus acc b) rest
          | .minus => combine resolve plus minus (minus acc b) rest

/-- Appends the items that are not there yet. -/
def union {α : Type} [DecidableEq α] (acc items : List α) : List α :=
  items.foldl (fun acc x => if acc.contains x then acc else acc ++ [x]) acc

/-- Leaves out the given items. -/
def difference {α : Type} [DecidableEq α] (acc items : List α) : List α :=
  acc.filter fun x => !items.contains x

/-- The view of a variable that a term names. -/
def viewOf (l : Line) (s : Store) (term : String) : Except Fault View :=
  match s.lookup term .all with
  | some v => .ok v
  | none => .error (.unknownVariable l term)

/-- A list term: a quoted text or a list. -/
def listTerm (allowed : String) (l : Line) (s : Store) (term : String) :
    Except Fault (List String) :=
  match Text.quoted? term with
  | some text => .ok [text]
  | none =>
      match viewOf l s term with
      | .error f => .error f
      | .ok (.list items) => .ok items
      | .ok v => .error (.typeMismatch l term allowed v.kind.name)

/-- A catalog term: a catalog, or a list under the term's own lower-case text. -/
def catalogTerm (l : Line) (s : Store) (term : String) : Except Fault Catalog :=
  let allowed := "a variable of type list or catalog"
  match Text.quoted? term with
  | some _ => .error (.typeMismatch l term allowed "a string literal")
  | none =>
      match viewOf l s term with
      | .error f => .error f
      | .ok (.list items) => .ok ⟨[(Text.lower term, items)]⟩
      | .ok (.catalog entries) => .ok entries
      | .ok v => .error (.typeMismatch l term allowed v.kind.name)

/-- A group term gives the group's members. -/
def groupTerm (l : Line) (s : Store) (term : String) : Except Fault (List Entity) :=
  let allowed := "a variable of type gen"
  match Text.quoted? term with
  | some _ => .error (.typeMismatch l term allowed "a string literal")
  | none =>
      match viewOf l s term with
      | .error f => .error f
      | .ok (.group g) => .ok g.members
      | .ok v => .error (.typeMismatch l term allowed v.kind.name)

def listSum (rhs : String) (l : Line) (s : Store) : Except Fault (List String) :=
  combine (listTerm "a string literal or a variable of type list" l s) union difference []
    (terms rhs)

def catalogSum (rhs : String) (l : Line) (s : Store) : Except Fault Catalog :=
  combine (catalogTerm l s) Table.merge (fun acc other => acc.eraseAll other.keys) .empty
    (terms rhs)

def groupSum (rhs : String) (l : Line) (s : Store) : Except Fault (List Entity) :=
  combine (groupTerm l s) union difference [] (terms rhs)

/-- The list behind a term of a joining or a case change. -/
def listOperand (l : Line) (s : Store) (term : String) : Except Fault (List String) :=
  listTerm "a variable of type list or a string literal" l s term

/-- Joins two lists item by item; the shorter one starts again when it ends. A list that is empty or
holds only the empty text leaves the other as it is. -/
def joinItems (joined operand : List String) : List String :=
  if operand.isEmpty || operand == [""] then joined
  else if joined.isEmpty then operand
  else (List.range (max joined.length operand.length)).map fun i =>
    joined.getD (i % joined.length) "" ++ operand.getD (i % operand.length) ""

/-- Joins at least two operands. -/
def wordJoin (rhs : String) (l : Line) (s : Store) : Except Fault (List String) :=
  let terms := (Text.splitAround '+' rhs).map Text.trim
  if terms.length < 2 then
    .error (.parameterCount l "2 parameters on the right hand side" terms.length)
  else (terms.mapM (listOperand l s)).map (List.foldl joinItems [])

/-- Changes the case of every item. -/
def mapCase (change : String → String) (rhs : String) (l : Line) (s : Store) :
    Except Fault (List String) :=
  (listOperand l s (Text.trim rhs)).map (List.map change)

/-- The name and amount of a selection, written `name amount`. -/
def selection? (rhs : String) : Option (String × Amount) :=
  match Text.words rhs with
  | [name, amount] => (Amount.ofCount? amount).map fun a => (name, a)
  | _ => none

/-- A sample of one value: items of a list, entries of a catalog or members of a group. -/
def sample (style : Style) (count : Nat) (v : View) (c : Chance) : Option Value × Chance :=
  match style, v with
  | .list, .list items =>
      let (xs, c) := Sampling.unique items count [] c
      (some (.list xs), c)
  | .catalog, .catalog entries =>
      let (es, c) := Sampling.unique entries.entries count [] c
      (some (.catalog (.ofEntries es)), c)
  | .group, .group g =>
      let (es, c) := Sampling.unique g.members count [] c
      (some (.group es), c)
  | _, _ => (none, c)

/-- The kind of value a style selects from. -/
def selectedKind : Style → Kind
  | .catalog => .catalog
  | .group => .group
  | _ => .list

/-- A random selection. The amount is drawn before the name is looked up. -/
def select (style : Style) (name : String) (amount : Amount) (l : Line) (s : Store) (c : Chance) :
    Except Fault Value × Chance :=
  let (count, c) := amount.resolve c
  if count = 0 then (.error (.parameterValue l "one or more items to select" "0"), c)
  else match viewOf l s name with
    | .error f => (.error f, c)
    | .ok v =>
        match sample style count v c with
        | (some value, c) => (.ok value, c)
        | (none, c) => (.error (.typeMismatch l name (selectedKind style).name v.kind.name), c)

/-- The value of a right-hand side that is no selection. -/
def evaluateFixed (style : Style) (rhs : String) (l : Line) (s : Store) : Except Fault Value :=
  match style with
  | .list => (listSum rhs l s).map .list
  | .catalog => (catalogSum rhs l s).map .catalog
  | .group => (groupSum rhs l s).map .group
  | .join => (wordJoin rhs l s).map .list
  | .upper => (mapCase Text.upper rhs l s).map .list
  | .lower => (mapCase Text.lower rhs l s).map .list
  | .upperFirst => (mapCase Text.upperFirst rhs l s).map .list
  | .lowerFirst => (mapCase Text.lowerFirst rhs l s).map .list

/-- Lists, catalogs and groups can be selected from. -/
def selects : Style → Bool
  | .list | .catalog | .group => true
  | _ => false

/-- The value of a right-hand side. -/
def evaluate (style : Style) (rhs : String) (l : Line) (s : Store) (c : Chance) :
    Except Fault Value × Chance :=
  match if selects style then selection? rhs else none with
  | some (name, amount) => select style name amount l s c
  | none => (evaluateFixed style rhs l s, c)

end Expression

/-- The fault of a line that could not store under a name. -/
def StoreFault.toFault (e : StoreFault) (l : Line) (name : String) : Fault :=
  match e with
  | missing _ => .unknownVariable l name
  | mismatch _ expected actual => .typeMismatch l name expected.name actual.name

/-- Stores a value under names from left to right. What was stored before a fault stays. -/
def Store.assignAll (l : Line) (v : Value) : List String → Store → Store × Option Fault
  | [], s => (s, none)
  | name :: rest, s =>
      match s.assign name v with
      | .ok s => assignAll l v rest s
      | .error e => (s, some (e.toFault l name))

/-- Runs an assignment line. The value is computed once, before anything is stored. -/
def Expression.assign (style : Style) (l : Line) (s : Store) (c : Chance) :
    (Store × Option Fault) × Chance :=
  match splitAssignment l.params with
  | none =>
      let fault := (Fault.malformed l "newvariable = value").given
        "too few arguments or ' = ' missing"
      ((s, some fault), c)
  | some (lhs, rhs) =>
      match evaluate style rhs l s c with
      | (.error f, c) => ((s, some f), c)
      | (.ok v, c) => (s.assignAll l v (Text.words lhs), c)

end ProseScript
