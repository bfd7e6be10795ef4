import ProseScript.Group
import ProseScript.Program
import ProseScript.Table

/-!
Values that names can hold, and the views that look-ups give of them.
-/

namespace ProseScript

inductive Kind where
  | list
  | catalog
  | group
  | snippet
  deriving DecidableEq, Repr

def Kind.name : Kind → String
  | list => "list"
  | catalog => "catalog"
  | group => "gen"
  | snippet => "desc"

/-- A value to be stored. Of a group it gives the members only: the pointer is the store's. -/
inductive Value where
  | list (items : List String)
  | catalog (entries : Catalog)
  | group (members : List Entity)
  | snippet (body : List Node)
  deriving Repr

def Value.kind : Value → Kind
  | list _ => .list
  | catalog _ => .catalog
  | group _ => .group
  | snippet _ => .snippet

/-- A stored value as a look-up shows it. -/
inductive View where
  | list (items : List String)
  | catalog (entries : Catalog)
  | group (g : Group)
  | snippet (body : List Node)
  deriving Repr

namespace View

def kind : View → Kind
  | list _ => .list
  | catalog _ => .catalog
  | group _ => .group
  | snippet _ => .snippet

def isEmpty : View → Bool
  | list items => items.isEmpty
  | catalog entries => entries.isEmpty
  | group g => g.members.isEmpty
  | snippet body => body.isEmpty

def list? : View → Option (List String)
  | list items => some items
  | _ => none

end View

end ProseScript
