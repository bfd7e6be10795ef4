import ProseScript.Line

/-!
Faults, which end a run, and warnings, which do not.
-/

namespace ProseScript

/-- What went wrong, wherever it did. -/
inductive FaultKind where
  | parameterCount
  | parameterValue
  | malformed
  | unknownVariable
  | typeMismatch
  | unknownCommand
  | unmatchedCloser
  | unclosedBlock
  | nestedBlock
  | unknownGender
  | emptySource
  | unknownFormatCode
  deriving DecidableEq, Repr

def FaultKind.text : FaultKind → String
  | parameterCount => "incorrect number of parameters"
  | parameterValue => "incorrect parameter value"
  | malformed => "incorrect syntax"
  | unknownVariable => "unknown variable"
  | typeMismatch => "type mismatch"
  | unknownCommand => "unrecognized command"
  | unmatchedCloser => "too many END-style commands"
  | unclosedBlock => "insufficient END-style commands"
  | nestedBlock => "nested structure not allowed"
  | unknownGender => "undefined gender"
  | emptySource => "empty source"
  | unknownFormatCode => "unknown format code"

/-- A fault carries the line it arose on, and what was expected and given there. -/
structure Fault where
  kind : FaultKind
  message : String
  command : String
  line : Nat
  text : String
  expected : Option String
  actual : Option String
  deriving DecidableEq, Repr

namespace Fault

/-- A fault that arose on a line, under the line's own command word. -/
def on (l : Line) (kind : FaultKind) (message : String) : Fault :=
  ⟨kind, message, l.keyword, l.number, l.text, none, none⟩

def expecting (f : Fault) (expected : String) : Fault := { f with expected := some expected }

def given (f : Fault) (actual : String) : Fault := { f with actual := some actual }

/-- The fault under another command word than its line's own. -/
def inCommand (f : Fault) (command : String) : Fault := { f with command }

def parameterCount (l : Line) (expected : String) (count : Nat) : Fault :=
  ((on l .parameterCount "wrong number of parameters").expecting expected).given
    (toString count ++ " parameters")

def parameterValue (l : Line) (expected actual : String) : Fault :=
  ((on l .parameterValue "invalid parameter value").expecting expected).given actual

def malformed (l : Line) (expected : String) : Fault :=
  (on l .malformed "malformed command").expecting expected

def unknownVariable (l : Line) (name : String) : Fault :=
  on l .unknownVariable ("unknown variable name " ++ name)

def typeMismatch (l : Line) (name expected actual : String) : Fault :=
  ((on l .typeMismatch ("incompatible variable type for " ++ name)).expecting expected).given actual

def unknownCommand (l : Line) : Fault := on l .unknownCommand "unrecognized command"

/-- What was given is told only beside what was expected. -/
def expectation (f : Fault) : String :=
  match f.expected, f.actual with
  | some e, some a => "\n Expected: " ++ e ++ ". You put: " ++ a
  | some e, none => "\n Expected: " ++ e
  | none, _ => ""

def render (f : Fault) : String :=
  f.kind.text ++ ": " ++ f.message ++ " in " ++ f.command ++ " at line " ++ toString f.line ++
    ": " ++ f.text ++ f.expectation

theorem map_eq_ok_iff {α β : Type} {x : Except Fault α} {f : α → β} {b : β} :
    x.map f = .ok b ↔ ∃ a, x = .ok a ∧ f a = b := by
  cases x <;> simp [Except.map]

/-- A chain succeeds when both of its parts do. -/
theorem bind_eq_ok_iff {α β : Type} {x : Except Fault α} {f : α → Except Fault β} {b : β} :
    (x >>= f) = .ok b ↔ ∃ a, x = .ok a ∧ f a = .ok b := by
  cases x <;> simp [bind, Except.bind]

end Fault

inductive Severity where
  | severe
  | mild
  deriving DecidableEq, Repr

def Severity.label : Severity → String
  | severe => "SEVERE"
  | mild => "MILD"

/-- A problem that the run survives. -/
structure Warning where
  severity : Severity
  message : String
  command : Option String
  line : Option Nat
  text : Option String
  deriving DecidableEq, Repr

namespace Warning

def severe (message : String) : Warning := ⟨.severe, message, none, none, none⟩

def mild (message : String) : Warning := ⟨.mild, message, none, none, none⟩

/-- The warning, raised on a line. -/
def on (w : Warning) (l : Line) : Warning :=
  { w with command := some l.keyword, line := some l.number, text := some l.text }

def inCommand (w : Warning) (command : String) : Warning := { w with command := some command }

/-- Where the warning was raised: each part is told only beside the one before it. -/
def place (w : Warning) : String :=
  match w.command, w.line, w.text with
  | none, _, _ => ""
  | some c, none, _ => " in command " ++ c
  | some c, some n, none => " in command " ++ c ++ " at line number " ++ toString n
  | some c, some n, some t => " in command " ++ c ++ " at line number " ++ toString n ++ ": " ++ t

def render (w : Warning) : String := w.severity.label ++ " WARNING: " ++ w.message ++ w.place

end Warning

end ProseScript
