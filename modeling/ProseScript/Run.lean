import ProseScript.Command
import ProseScript.Program
import ProseScript.Run.Cast
import ProseScript.Run.Generate
import ProseScript.Run.Page
import ProseScript.Run.Write

/-!
Running programs. A run is bounded by a limit on nesting, calls and passes of repetitions that count
words; more of it changes no finished run.
-/

namespace ProseScript.Run

def loopUsage : String := "LOOP 5, LOOP 4--10, LOOP 500W or LOOP 600W--900W"

/-- The whole number in a list of one item. -/
def namedCount (l : Line) (s : State) (name : String) : Except Fault Nat :=
  match s.lookup name with
  | some (.list [text]) =>
      match Amount.ofCount? (Text.trim text) with
      | some (.count n) => .ok n
      | _ => .error (.parameterValue l "a variable holding a whole number" text)
  | some v =>
      .error (.parameterValue l "a variable holding a whole number"
        ("a variable of type " ++ v.kind.name))
  | none => .error ((Fault.malformed l loopUsage).given name)

/-- The amount of a `LOOP` line, one pass unless given, with what it counts. -/
def loopAmount (l : Line) (s : State) : Except Fault (Nat × Counting × Chance) :=
  match l.paramWords with
  | [] => .ok (1, .cycles, s.chance)
  | [param] =>
      match Amount.ofText? param with
      | some amount =>
          let (n, chance) := amount.resolve s.chance
          .ok (n, amount.counting, chance)
      | none => (namedCount l s param).map fun n => (n, .cycles, s.chance)
  | params => .error (.parameterCount l loopUsage params.length)

/-- The amount of a `LOOP` line, which must not be zero. -/
def loopTarget (l : Line) (s : State) : Except Fault (Nat × Counting × Chance) :=
  match loopAmount l s with
  | .error f => .error f
  | .ok (n, counting, chance) =>
      if n = 0 then .error (.parameterValue l "a repeat target above zero" "0")
      else .ok (n, counting, chance)

/-- Stores the body of a `DESC` block under its name. -/
def storeSnippet (opener : Line) (body : List Node) (s : State) : Except Fault State :=
  match opener.paramWords with
  | [name] => .ok { s with store := s.store.setSnippet name body }
  | params =>
      .error (.parameterCount opener
        "one parameter only, the name of the variable for storing this desc" params.length)

/-- The body that a `CALL` line names. -/
def calledBody (l : Line) (s : State) : Except Fault (List Node) :=
  match l.paramWords with
  | [word] =>
      let name := Text.lower word
      match s.store.snippet? name with
      | some body => .ok body
      | none =>
          .error (.on l .unknownVariable ("unable to call the desc " ++ name ++
            " as it does not exist or was not defined prior to calling it"))
  | params =>
      .error (.parameterCount l "one parameter only, the name of the desc to be called"
        params.length)

/-- Runs a command that neither writes sentences nor calls. -/
def simple (c : Command) (l : Line) (s : State) : Except Fault State :=
  match Style.ofCommand? c with
  | some style => assign style l s
  | none =>
      match c with
      | .display => display l s
      | .format => setFormat l s
      | .newLine => newLine l s
      | .newPara => newPara l s
      | .newChapter => newChapter l s
      | .refGender => refGender l s
      | .recite => recite l s
      | .shift => shift l s
      | .shuffle => shuffle l s
      | _ => .error (.unknownCommand l)

/-- The crash of a command that neither writes sentences nor calls. It comes before all that can be
seen of the command. -/
def crash? (c : Command) (l : Line) (s : State) : Option Crash :=
  match c with
  | .newChapter => if lastChapter s then some .overflow else none
  | .shift => if overshifts l s then some .overflow else none
  | _ => none

/-- Runs a line, given how to run a body. -/
def line (body : List Node → State → Outcome State) (limit : Nat) (l : Line) (s : State) :
    Outcome State :=
  if l.isIdle then .finished s
  else match Command.ofLine? l with
    | none => .failed (.unknownCommand l) s.shown
    | some .write => write limit l s
    | some .call =>
        match calledBody l s with
        | .ok nodes => body nodes s
        | .error f => .failed f s.shown
    | some c => .checked (crash? c l s) s.shown (simple c l s)

/-- Repeats a pass from `progress` to `stop`, counting passes or the words of the output. -/
def passes (counting : Counting) (limit : Nat) (pass : State → Outcome State)
    (progress stop : Nat) (s : State) : Outcome State :=
  Outcome.repeated counting State.wordCount limit pass progress stop s

/-- Runs a `LOOP` block, given how to run its body once. -/
def loop (pass : State → Outcome State) (limit : Nat) (opener : Line) (s : State) :
    Outcome State :=
  match loopTarget opener s with
  | .error f => .failed f s.shown
  | .ok (n, counting, chance) =>
      match counting.span? s.wordCount n with
      | none => .crashed .overflow s.shown
      | some (start, stop) => passes counting limit pass start stop { s with chance }

/-- The crash of a `GEN` block, before its members are made. -/
def genCrash? (opener : Line) (s : State) : Option Crash :=
  if overfull opener s then some .capacity else none

/-- Runs one node, given how to run a body. -/
def node (body : List Node → State → Outcome State) (limit : Nat) (n : Node) (s : State) :
    Outcome State :=
  match n with
  | .line l => line body limit l { s with current := some l }
  | .block kind opener nodes _ =>
      let s := { s with current := some opener }
      match kind with
      | .gen => .checked (genCrash? opener s) s.shown (generate opener nodes s)
      | .desc => .ofExcept s.shown (storeSnippet opener nodes s)
      | .loop => loop (body nodes) limit opener s

/-- Runs nodes in a row, up to the first that does not finish. -/
def inOrder (step : Node → State → Outcome State) : List Node → State → Outcome State
  | [], s => .finished s
  | n :: rest, s =>
      match step n s with
      | .finished s => inOrder step rest s
      | .failed f shown => .failed f shown
      | .crashed crash shown => .crashed crash shown
      | .unfinished => .unfinished

theorem inOrder_cons (step : Node → State → Outcome State) (n : Node) (rest : List Node)
    (s : State) : inOrder step (n :: rest) s = (step n s).bind (inOrder step rest) := by
  cases h : step n s <;> simp [inOrder, Outcome.bind, h]

/-- Runs a sequence of nodes within a limit. -/
def nodes : Nat → List Node → State → Outcome State
  | 0, _, _ => .unfinished
  | limit + 1, ns, s => inOrder (node (nodes limit) limit) ns s

/-- Runs a sequence of nodes again and again, from `progress` to `stop`. -/
def execute (limit : Nat) (ns : List Node) (counting : Counting) (progress stop : Nat) (s : State) :
    Outcome State :=
  passes counting limit (nodes limit ns) progress stop s

/-- Runs a whole program from its setup. -/
def program (limit : Nat) (u : Setup) (p : Program) (c : Chance) : Outcome State :=
  nodes limit p (u.initial c)

/-- A limit beyond the reach of any machine. -/
def ample : Nat := 1 <<< 62

end ProseScript.Run
