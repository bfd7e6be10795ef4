import ProseScript.Program.Nesting
import ProseScript.Run.Outcome
import ProseScript.Run.State
import ProseScript.Settings
import ProseScript.Story
import ProseScript.Vocabulary

/-!
Projects: settings, genders, vocabulary and program brought together from files.
-/

namespace ProseScript

/-- Why a settings file could not be used. -/
inductive TextFault where
  | unread (fault : FileFault)
  | malformed
  deriving DecidableEq, Repr

def TextFault.message : TextFault → String
  | unread fault => "IO error: " ++ fault.message
  | malformed => "RON deserialization error: malformed text"

inductive SettingsFault where
  | settings (fault : TextFault)
  | format (codes : UnknownCodes)
  | genders (fault : TextFault)
  deriving DecidableEq, Repr

def SettingsFault.message : SettingsFault → String
  | settings fault => fault.message
  | format codes => "invalid default format: " ++ codes.message
  | genders fault => "gender definitions: " ++ fault.message

/-- Why a project came to no story. -/
inductive ProjectFault where
  | settings (fault : SettingsFault)
  | vocabulary (fault : LoadFault)
  | program (path : String) (fault : FileFault)
  | script (fault : Fault)
  | story (fault : StoryFault)
  | crashed (crash : Crash)
  /-- The run met its limit. -/
  | unfinished
  deriving DecidableEq, Repr

def ProjectFault.message : ProjectFault → String
  | settings fault => "configuration error: " ++ fault.message
  | vocabulary fault => "vocabulary error: " ++ fault.message
  | program path fault => "unable to read program " ++ path ++ ": " ++ fault.message
  | script fault => "STOPPING: ERROR - " ++ fault.render
  | story fault => "STOPPING: ERROR - " ++ fault.message
  | crashed crash => crash.message
  | unfinished => "STOPPING: ERROR - the run met its limit"

/-- A crash has an exit code of its own. -/
def ProjectFault.exitCode : ProjectFault → Nat
  | crashed _ => 101
  | _ => 1

theorem ProjectFault.exitCode_ne_zero (fault : ProjectFault) : fault.exitCode ≠ 0 := by
  cases fault <;> simp [exitCode]

namespace RunSettings

/-- Reads a settings file. -/
def load (path : String) : Session (Except SettingsFault RunSettings) :=
  .read path fun
    | .error fault => .done (.error (.settings (.unread fault)))
    | .ok text =>
        match ofText? text with
        | some s => .done (.ok s)
        | none => .done (.error (.settings .malformed))

/-- The gender definitions of the settings, or the standard ones. -/
def loadGenders (s : RunSettings) : Session (Except SettingsFault Genders) :=
  match s.genders with
  | none => .done (.ok .standard)
  | some path =>
      .read path fun
        | .error fault => .done (.error (.genders (.unread fault)))
        | .ok text =>
            match Genders.ofText? text with
            | some g => .done (.ok g)
            | none => .done (.error (.genders .malformed))

def namePolicy (s : RunSettings) : NamePolicy := ⟨s.stemLength, s.fallbackStem, s.outputExtension⟩

/-- What a run under these settings starts from, with the warnings of loading it. -/
def prepare (s : RunSettings) : Session (Except ProjectFault (Setup × List Warning)) := do
  match Format.ofText s.format with
  | .error codes => return .error (.settings (.format codes))
  | .ok format =>
      match ← s.loadGenders with
      | .error fault => return .error (.settings fault)
      | .ok genders =>
          match ← Vocabulary.load s.vocabularyRoot s.sentencePrefix s.wordPrefix with
          | .error fault => return .error (.vocabulary fault)
          | .ok v =>
              return .ok (⟨v.words, v.sentences, genders, format, s.wordsAlias, s.sentencesAlias⟩,
                v.warnings)

end RunSettings

/-- Reads a program file. -/
def Program.load (path : String) : Session (Except ProjectFault Program) :=
  .read path fun
    | .error fault => .done (.error (.program path fault))
    | .ok source =>
        match Program.ofSource source with
        | .ok p => .done (.ok p)
        | .error fault => .done (.error (.script fault))

end ProseScript
