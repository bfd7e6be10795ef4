import ProseScript.Command
import ProseScript.Format
import ProseScript.Program

/-!
Checking the blocks and command words of a program without running it.
-/

namespace ProseScript.Lint

inductive Problem where
  | unknownCommand (l : Line)
  | badFormat (l : Line) (e : UnknownCodes)
  /-- A block stands in the body of a `GEN` block. -/
  | nestedBlock (opener : Line) (kind : BlockKind)
  /-- A line in the body of a `GEN` block has the wrong number of words. -/
  | fieldWords (l : Line) (count : Nat)
  deriving DecidableEq, Repr

def Problem.message : Problem → String
  | unknownCommand l =>
      "line " ++ toString l.number ++ ": unrecognized command '" ++ l.text ++ "'"
  | badFormat l e => "line " ++ toString l.number ++ ": " ++ e.message
  | nestedBlock opener kind =>
      "line " ++ toString opener.number ++ ": nested " ++ kind.name ++ " inside GEN"
  | fieldWords l count =>
      "line " ++ toString l.number ++ ": GEN field lines take 3 - 4 words, found " ++ toString count

/-- A call of a name that no earlier block describes. -/
structure EarlyCall where
  line : Line
  name : String
  deriving DecidableEq, Repr

def EarlyCall.message (e : EarlyCall) : String :=
  "line " ++ toString e.line.number ++ ": CALL " ++ e.name ++ " before any DESC of that name"

/-- What a check has found so far, and the names described so far. -/
structure Report where
  problems : List Problem
  earlyCalls : List EarlyCall
  blocks : Nat
  commands : Nat
  described : List String
  deriving DecidableEq, Repr

namespace Report

def empty : Report := ⟨[], [], 0, 0, []⟩

def addProblem (r : Report) (p : Problem) : Report := { r with problems := r.problems ++ [p] }

def addCommand (r : Report) : Report := { r with commands := r.commands + 1 }

def addBlock (r : Report) : Report := { r with blocks := r.blocks + 1 }

/-- Notes the name that a `DESC` line gives, if it gives one alone. -/
def describe (r : Report) (opener : Line) : Report :=
  match opener.paramWords with
  | [name] => { r with described := Text.lower name :: r.described }
  | _ => r

end Report

/-- Checks a line that stands where commands do. -/
def line (l : Line) (r : Report) : Report :=
  if l.isIdle then r
  else
    let r := r.addCommand
    match Command.ofLine? l with
    | none => r.addProblem (.unknownCommand l)
    | some .format =>
        match l.paramWords with
        | [codes] =>
            match Format.ofText codes with
            | .ok _ => r
            | .error e => r.addProblem (.badFormat l e)
        | _ => r
    | some .call =>
        match l.paramWords with
        | [name] =>
            if r.described.contains (Text.lower name) then r
            else { r with earlyCalls := r.earlyCalls ++ [⟨l, name⟩] }
        | _ => r
    | some _ => r

/-- Checks a node in the body of a `GEN` block. -/
def fieldNode (r : Report) : Node → Report
  | .block kind opener _ _ => r.addProblem (.nestedBlock opener kind)
  | .line l =>
      if l.isIdle then r
      else
        let count := (Text.words l.text).length
        if 3 ≤ count ∧ count ≤ 4 then r else r.addProblem (.fieldWords l count)

mutual

def node : Node → Report → Report
  | .line l, r => line l r
  | .block .gen _ body _, r => body.foldl fieldNode r.addBlock
  | .block .desc opener body _, r => nodes body (r.addBlock.describe opener)
  | .block .loop _ body _, r => nodes body r.addBlock

/-- Checks nodes in order. -/
def nodes : List Node → Report → Report
  | [], r => r
  | n :: rest, r => nodes rest (node n r)

end

/-- Checks a whole program. -/
def program (p : Program) : Report := nodes p .empty

/-- The report in lines: warnings, errors and a summary. -/
def Report.render (r : Report) : String :=
  let passed := if r.problems.isEmpty && r.earlyCalls.isEmpty then "All checks passed!\n" else ""
  let warnings := r.earlyCalls.map fun e => "WARNING: " ++ e.message ++ "\n"
  let errors := r.problems.map fun p => "ERROR: " ++ p.message ++ "\n"
  passed ++ String.join warnings ++ String.join errors ++
    "\nSummary: " ++ toString r.commands ++ " commands, " ++ toString r.blocks ++ " blocks, " ++
    toString r.problems.length ++ " errors, " ++ toString r.earlyCalls.length ++ " warnings\n"

end ProseScript.Lint
