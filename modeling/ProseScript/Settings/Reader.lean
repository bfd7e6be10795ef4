import ProseScript.Settings.Lexeme
import ProseScript.Table

/-!
Readers of settings values: lists, tables and options. Entries are divided by commas, and one comma
may stand after the last.
-/

namespace ProseScript.Settings

/-- What a settings text may leave out by its opening attribute. -/
structure Dialect where
  /-- An optional value may stand without `Some`. -/
  implicitSome : Bool
  deriving DecidableEq, Repr

/-- Reads entries up to the closing symbol, each of which updates `s`. -/
def entries {σ : Type} (close : Char) (entry : σ → Reader σ) : Nat → Bool → σ → Reader σ
  | 0, _, _, _ => none
  | fuel + 1, expected, s, cs => do
      match ← skip cs with
      | [] => none
      | c :: rest =>
          if c = close then some (s, rest)
          else if expected then do
            let (s, cs) ← entry s (c :: rest)
            let (more, cs) ← comma cs
            entries close entry fuel more s cs
          else none

/-- Entries between an opening and a closing symbol. Each takes at least one character. -/
def enclosed {σ : Type} (start close : Char) (entry : σ → Reader σ) (s : σ) : Reader σ :=
  fun cs => do
    let cs ← symbol start cs
    entries close entry (cs.length + 1) true s cs

def list {α : Type} (item : Reader α) : Reader (List α) := fun cs => do
  let add (xs : List α) : Reader (List α) := fun cs => do
    let (x, cs) ← item cs
    return (x :: xs, cs)
  let (xs, cs) ← enclosed '[' ']' add [] cs
  return (xs.reverse, cs)

/-- A table; of two equal keys the later counts. -/
def table {α : Type} (item : Reader α) : Reader (Table α) :=
  let add (t : Table α) : Reader (Table α) := fun cs => do
    let (key, cs) ← quoted cs
    let cs ← skip (← symbol ':' cs)
    let (a, cs) ← item cs
    return (t.insert key a, cs)
  enclosed '\x7b' '\x7d' add .empty

/-- An optional value: `None`, or a value within `Some`. -/
def option {α : Type} (d : Dialect) (item : Reader α) : Reader (Option α) := fun cs =>
  let within (cs : List Char) : Option (Option α × List Char) := do
    let cs ← skip cs
    let (a, cs) ← item cs
    let (_, cs) ← comma cs
    let cs ← symbol ')' cs
    return (some a, cs)
  let bare (cs : List Char) : Option (Option α × List Char) :=
    if d.implicitSome then (item cs).map fun (a, cs) => (some a, cs) else none
  match cs with
  | 'N' :: 'o' :: 'n' :: 'e' :: rest => some (none, rest)
  | 'S' :: 'o' :: 'm' :: 'e' :: rest => do
      match ← skip rest with
      | '(' :: rest => within rest
      | rest => bare rest
  | cs => bare cs

end ProseScript.Settings
