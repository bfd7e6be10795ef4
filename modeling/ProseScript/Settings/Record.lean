import ProseScript.Settings.Skip

/-!
Settings records, and whole settings texts.
-/

namespace ProseScript.Settings

/-- The levels of nesting that a settings text may have. -/
def maxLevels : Nat := 128

/-- A record with an optional type name. A known field is read once, by `field`; other fields are
passed over by `other`, which may refuse them. -/
def record {σ : Type} (name : String) (known : List String) (other : Skipper)
    (field : String → σ → Reader σ) (s : σ) : Reader σ := fun cs => do
  let cs ← match identifier cs with
    | some (found, rest) => if found = name then some rest else none
    | none => some cs
  let entry : σ × List String → Reader (σ × List String) := fun (s, seen) cs => do
    let (key, cs) ← identifier cs
    let cs ← skip (← symbol ':' cs)
    if known.contains key then
      if seen.contains key then none
      else do
        let (s, cs) ← field key s cs
        return ((s, key :: seen), cs)
    else return ((s, seen), ← other cs)
  let ((s, _), cs) ← enclosed '(' ')' entry (s, []) cs
  return (s, cs)

/-- An attribute names extensions of the notation to be enabled. -/
def extension (d : Dialect) : Reader Dialect := fun cs => do
  let (name, cs) ← identifier cs
  if name = "implicit_some" then return ({ d with implicitSome := true }, cs)
  else if name = "unwrap_newtypes" || name = "unwrap_variant_newtypes" then return (d, cs)
  else none

/-- The attributes `#![enable(...)]` at the front of a text. -/
def attributes : Nat → Dialect → Reader Dialect
  | 0, _, _ => none
  | fuel + 1, d, cs => do
      match ← skip cs with
      | '#' :: rest =>
          let cs ← symbol '[' (← symbol '!' rest)
          let cs ← symbol '(' (← word "enable" (← skip cs))
          let (d, cs) ← extension d (← skip cs)
          let (more, cs) ← comma cs
          let (d, cs) ← entries ')' extension (cs.length + 1) more d cs
          attributes fuel d (← symbol ']' cs)
      | cs => some (d, cs)

/-- Reads a whole settings text. -/
def whole {α : Type} (item : Dialect → Reader α) (text : String) : Option α := do
  let cs := text.toList
  let (d, cs) ← attributes (cs.length + 1) ⟨false⟩ cs
  let (a, cs) ← item d cs
  match ← skip cs with
  | [] => some a
  | _ => none

end ProseScript.Settings
