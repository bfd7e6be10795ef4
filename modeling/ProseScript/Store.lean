import ProseScript.Text.Case
import ProseScript.Text.Split
import ProseScript.Value

/-!
The store of named values. Names mean the same in upper and lower case. A name is sought among word
sets, sentence sets, groups, fields of active members, variables and folder aliases, in this order;
snippets stand apart.
-/

namespace ProseScript

/-- The part of the store that a look-up is confined to. -/
inductive Namespace where
  | all
  | wordSet
  | sentenceSet
  | group
  | user
  | snippet
  deriving DecidableEq, Repr

def Namespace.name : Namespace → String
  | all => "any namespace"
  | wordSet => "word set"
  | sentenceSet => "sentence set"
  | group => "gen"
  | user => "user variable"
  | snippet => "desc"

/-- A vocabulary folder that an alias can read as one catalog. -/
inductive Folder where
  | words
  | sentences
  deriving DecidableEq, Repr

inductive StoreFault where
  | missing (name : String)
  | mismatch (place : Namespace) (expected actual : Kind)
  deriving DecidableEq, Repr

def StoreFault.message : StoreFault → String
  | missing name => "variable " ++ name ++ " does not exist"
  | mismatch place _ actual =>
      "a " ++ place.name ++ " cannot hold a value of type " ++ actual.name

/-- Where a name was found. -/
inductive Slot where
  | wordSet
  | sentenceSet
  | group
  | field (group name : String)
  | user
  | vocabulary (folder : Folder)
  | snippet
  deriving DecidableEq, Repr

/-- The namespace of a slot and the kind of value it is made for. -/
def Slot.holds : Slot → Namespace × Kind
  | wordSet => (.wordSet, .list)
  | sentenceSet => (.sentenceSet, .list)
  | group => (.group, .group)
  | field _ _ => (.group, .list)
  | user => (.user, .list)
  | vocabulary _ => (.user, .list)
  | snippet => (.snippet, .snippet)

structure Store where
  words : Catalog
  sentences : Catalog
  groups : Table Group
  snippets : Table (List Node)
  userVars : Table Value
  aliases : Table Folder
  deriving Repr

namespace Store

/-- A store of two vocabulary folders. -/
def ofFolders (words sentences : Catalog) : Store :=
  ⟨words, sentences, .empty, .empty, .empty, .empty⟩

/-- The field of an active member that a dotted name denotes. -/
def fieldSlot? (s : Store) (name : String) : Option Slot :=
  match Text.splitDotted name with
  | none => none
  | some (group, field) =>
      match (s.groups.get? group).bind Group.active? with
      | some e => if e.has field then some (.field group field) else none
      | none => none

/-- The slot of a lower-case name. -/
def locate (s : Store) (name : String) (place : Namespace) : Option Slot :=
  if place = .snippet then
    if s.snippets.contains name then some .snippet else none
  else if (place = .all ∨ place = .wordSet) ∧ s.words.contains name then some .wordSet
  else if (place = .all ∨ place = .sentenceSet) ∧ s.sentences.contains name then some .sentenceSet
  else
    let inGroups :=
      if place = .all ∨ place = .group then
        if s.groups.contains name then some .group else s.fieldSlot? name
      else none
    match inGroups with
    | some slot => some slot
    | none =>
        if place = .all ∨ place = .user then
          if s.userVars.contains name then some .user
          else (s.aliases.get? name).map .vocabulary
        else none

/-- The value in the slot of a lower-case name. -/
def read (s : Store) (name : String) : Slot → Option View
  | .wordSet => (s.words.get? name).map .list
  | .sentenceSet => (s.sentences.get? name).map .list
  | .group => (s.groups.get? name).map .group
  | .field group field =>
      (((s.groups.get? group).bind Group.active?).bind fun e => e.get? field).map .list
  | .user =>
      match s.userVars.get? name with
      | some (.list items) => some (.list items)
      | some (.catalog entries) => some (.catalog entries)
      | _ => none
  | .vocabulary .words => some (.catalog s.words)
  | .vocabulary .sentences => some (.catalog s.sentences)
  | .snippet => (s.snippets.get? name).map .snippet

/-- Makes a lower-case name a variable of its own; an alias of that name is gone. -/
def setVariable (s : Store) (name : String) (v : Value) : Store :=
  { s with aliases := s.aliases.erase name, userVars := s.userVars.insert name v }

/-- Puts a value into the slot of a lower-case name, if the slot can hold it. -/
def write (s : Store) (name : String) (slot : Slot) (v : Value) : Except StoreFault Store :=
  match slot, v with
  | .wordSet, .list items => .ok { s with words := s.words.insert name items }
  | .sentenceSet, .list items => .ok { s with sentences := s.sentences.insert name items }
  | .group, .group members =>
      match s.groups.get? name with
      | some g => .ok { s with groups := s.groups.insert name (g.replaceMembers members) }
      | none => .ok s
  | .field group field, .list items =>
      match (s.groups.get? group).bind fun g => g.setActive field items with
      | some g => .ok { s with groups := s.groups.insert group g }
      | none => .error (.missing name)
  | .user, .list items => .ok (s.setVariable name (.list items))
  | .user, .catalog entries => .ok (s.setVariable name (.catalog entries))
  | .vocabulary _, .list items => .ok (s.setVariable name (.list items))
  | .vocabulary _, .catalog entries => .ok (s.setVariable name (.catalog entries))
  | .snippet, .snippet body => .ok { s with snippets := s.snippets.insert name body }
  | slot, v => .error (.mismatch slot.holds.1 slot.holds.2 v.kind)

/-- The value of a name. -/
def lookup (s : Store) (name : String) (place : Namespace) : Option View :=
  let name := Text.lower name
  (s.locate name place).bind (s.read name)

def group? (s : Store) (name : String) : Option Group := s.groups.get? (Text.lower name)

def snippet? (s : Store) (name : String) : Option (List Node) := s.snippets.get? (Text.lower name)

/-- Puts a group under a name, in place of any earlier one. -/
def setGroup (s : Store) (name : String) (g : Group) : Store :=
  { s with groups := s.groups.insert (Text.lower name) g }

/-- Puts a snippet under a name, in place of any earlier one. -/
def setSnippet (s : Store) (name : String) (body : List Node) : Store :=
  { s with snippets := s.snippets.insert (Text.lower name) body }

/-- Makes a name read as a whole vocabulary folder. -/
def setAlias (s : Store) (name : String) (folder : Folder) : Store :=
  { s with aliases := s.aliases.insert (Text.lower name) folder }

/-- Overwrites a name where it is found. -/
def replace (s : Store) (name : String) (place : Namespace) (v : Value) : Except StoreFault Store :=
  let name := Text.lower name
  match s.locate name place with
  | some slot => s.write name slot v
  | none => .error (.missing name)

/-- Stores a new name: members as a group, lists and catalogs as a variable. -/
def create (s : Store) (name : String) : Value → Except StoreFault Store
  | .group members => .ok { s with groups := s.groups.insert name (.ofMembers members) }
  | .list items => .ok { s with userVars := s.userVars.insert name (.list items) }
  | .catalog entries => .ok { s with userVars := s.userVars.insert name (.catalog entries) }
  | .snippet _ => .error (.mismatch .user .list .snippet)

/-- Overwrites a name where it is found, or creates it. -/
def assign (s : Store) (name : String) (v : Value) : Except StoreFault Store :=
  let name := Text.lower name
  match s.locate name .all with
  | some slot => s.write name slot v
  | none => s.create name v

end Store

end ProseScript
