import ProseScript.Table
import ProseScript.Text.Numeral
import ProseScript.Text.Split

/-!
Command lines: options that take one value each, and what stands between them.
-/

namespace ProseScript.Tool

/-- An option with a long name and perhaps a short one. `accepts` tells which values it takes. -/
structure OptionSpec where
  long : String
  short : Option Char
  accepts : String → Bool

/-- What a command line asks for. -/
inductive Request (α : Type) where
  | run (a : α)
  | help
  | misuse
  deriving DecidableEq, Repr

/-- The values and the plain arguments read so far. -/
structure Given where
  values : Table String
  plain : List String
  deriving DecidableEq, Repr

/-- What stands after an option may be its value unless it looks like an option. -/
def looksPlain (arg : String) : Bool := !Text.startsWith arg "-" || arg == "-"

/-- Records a value; an option is given at most once. -/
def Given.setValue? (g : Given) (o : OptionSpec) (value : String) : Option Given :=
  if g.values.contains o.long || !o.accepts value then none
  else some { g with values := g.values.insert o.long value }

/-- Records a plain argument; there are at most `most` of them, and none is empty. -/
def Given.addPlain? (most : Option Nat) (g : Given) (arg : String) : Option Given :=
  let room := match most with
    | none => true
    | some n => decide (g.plain.length < n)
  if room && !arg.isEmpty then some { g with plain := g.plain ++ [arg] } else none

/-- An argument that begins with hyphens, by its option name and the value attached to it. -/
inductive Marked where
  | long (name : String) (value : Option String)
  | short (name : Char) (value : Option String)
  deriving DecidableEq, Repr

/-- Takes a marked argument apart: `--name`, `--name=value`, `-n`, `-nvalue` or `-n=value`. -/
def marked? (arg : String) : Option Marked :=
  match arg.toList with
  | '-' :: '-' :: rest =>
      let name := rest.takeWhile (· ≠ '=')
      match rest.drop name.length with
      | [] => some (.long (String.ofList name) none)
      | _ :: value => some (.long (String.ofList name) (some (String.ofList value)))
  | '-' :: c :: rest =>
      match rest with
      | [] => some (.short c none)
      | '=' :: value => some (.short c (some (String.ofList value)))
      | value => some (.short c (some (String.ofList value)))
  | _ => none

def Marked.value : Marked → Option String
  | long _ value => value
  | short _ value => value

def Marked.asksHelp : Marked → Bool
  | long name value => name == "help" && value.isNone
  | short name _ => name == 'h'

def Marked.spec? (options : List OptionSpec) : Marked → Option OptionSpec
  | long name _ => options.find? fun o => o.long == name
  | short name _ => options.find? fun o => o.short == some name

/-- Reads arguments from left to right. After a bare `--` all are plain. -/
def scan (options : List OptionSpec) (most : Option Nat) : List String → Given → Request Given
  | [], g => .run g
  | arg :: rest, g =>
      if arg = "--" then
        match rest.foldlM (Given.addPlain? most) g with
        | some g => .run g
        | none => .misuse
      else if arg = "-" then
        match g.addPlain? most arg with
        | some g => scan options most rest g
        | none => .misuse
      else match marked? arg with
        | none =>
            match g.addPlain? most arg with
            | some g => scan options most rest g
            | none => .misuse
        | some m =>
            if m.asksHelp then .help
            else match m.spec? options, m.value with
              | none, _ => .misuse
              | some o, some value =>
                  match g.setValue? o value with
                  | some g => scan options most rest g
                  | none => .misuse
              | some o, none =>
                  match rest with
                  | [] => .misuse
                  | value :: rest =>
                      if looksPlain value then
                        match g.setValue? o value with
                        | some g => scan options most rest g
                        | none => .misuse
                      else .misuse

/-- The value of an unsigned number of 64 bits, which may carry a plus sign. -/
def unsigned? (text : String) : Option Nat :=
  let digits := match text.toList with
    | '+' :: rest => rest
    | cs => cs
  (Text.numeral? digits).filter (· < UInt64.size)

/-- A path is any text but the empty one. -/
def isPath (text : String) : Bool := !text.isEmpty

/-- The command line of the tool that tells stories. -/
structure StoryArguments where
  program : String
  settings : Option String
  vocabulary : Option String
  seed : Option Nat
  output : Option String
  deriving DecidableEq, Repr

def storyOptions : List OptionSpec := [
  ⟨"config", some 'c', isPath⟩, ⟨"vocab", none, isPath⟩,
  ⟨"seed", some 's', fun text => (unsigned? text).isSome⟩, ⟨"output", some 'o', isPath⟩]

/-- Reads the command line of the tool that tells stories: one program and its options. -/
def storyRequest (args : List String) : Request StoryArguments :=
  match scan storyOptions (some 1) args ⟨.empty, []⟩ with
  | .run ⟨values, [program]⟩ =>
      .run ⟨program, values.get? "config", values.get? "vocab", (values.get? "seed").bind unsigned?,
        values.get? "output"⟩
  | .run _ => .misuse
  | .help => .help
  | .misuse => .misuse

/-- Reads the command line of the tool that checks programs: one or more programs. -/
def checkRequest (args : List String) : Request (List String) :=
  match scan [] none args ⟨.empty, []⟩ with
  | .run ⟨_, []⟩ => .misuse
  | .run ⟨_, programs⟩ => .run programs
  | .help => .help
  | .misuse => .misuse

end ProseScript.Tool
