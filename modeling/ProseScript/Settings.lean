import ProseScript.Format
import ProseScript.Gender
import ProseScript.Settings.Record

/-!
Settings texts: the settings of a run, and gender definitions.
-/

namespace ProseScript

/-- The settings of a run. -/
structure RunSettings where
  /-- The directory that holds the vocabulary folders. -/
  vocabularyRoot : String
  sentencePrefix : String
  wordPrefix : String
  wordsAlias : String
  sentencesAlias : String
  /-- The codes in force until the first `FORMAT`. -/
  format : String
  seed : Option Nat
  outputExtension : String
  /-- The length of the longest stem taken from a first sentence. -/
  stemLength : Nat
  /-- The stem of a story without letters in its first sentence. -/
  fallbackStem : String
  /-- A file of gender definitions in place of the standard ones. -/
  genders : Option String
  deriving DecidableEq, Repr

namespace RunSettings

def standard : RunSettings where
  vocabularyRoot := "."
  sentencePrefix := "sentence"
  wordPrefix := "word"
  wordsAlias := "wfolder"
  sentencesAlias := "sfolder"
  format := "ACPS"
  seed := none
  outputExtension := "md"
  stemLength := 9
  fallbackStem := "YourStory"
  genders := none

def fieldNames : List String := [
  "vocabulary_root", "sentence_prefix", "word_prefix", "words_alias", "sentences_alias", "format",
  "seed", "output_extension", "stem_length", "fallback_stem", "genders"]

open Settings

/-- Reads the value of one field. -/
def field (d : Dialect) (name : String) (s : RunSettings) : Reader RunSettings := fun cs => do
  match name with
  | "seed" =>
      let (seed, cs) ← option d natural cs
      return ({ s with seed }, cs)
  | "stem_length" =>
      let (stemLength, cs) ← natural cs
      return ({ s with stemLength }, cs)
  | "genders" =>
      let (genders, cs) ← option d quoted cs
      return ({ s with genders }, cs)
  | name =>
      let (text, cs) ← quoted cs
      match name with
      | "vocabulary_root" => return ({ s with vocabularyRoot := text }, cs)
      | "sentence_prefix" => return ({ s with sentencePrefix := text }, cs)
      | "word_prefix" => return ({ s with wordPrefix := text }, cs)
      | "words_alias" => return ({ s with wordsAlias := text }, cs)
      | "sentences_alias" => return ({ s with sentencesAlias := text }, cs)
      | "format" => return ({ s with format := text }, cs)
      | "output_extension" => return ({ s with outputExtension := text }, cs)
      | "fallback_stem" => return ({ s with fallbackStem := text }, cs)
      | _ => none

/-- Reads run settings. Fields that are not given keep their standard values, and there are no
others. -/
def ofText? (text : String) : Option RunSettings :=
  whole (fun d => record "RunConfig" fieldNames (fun _ => none) (field d) standard) text

end RunSettings

namespace Genders

open Settings

def texts : Reader (List String) := list quoted

/-- Passes over a field that has no meaning here, in a record that has `levels` of nesting left. -/
def skipField (d : Dialect) (levels : Nat) : Skipper := skipValue d (levels - 2)

/-- Reads the six word forms, all of which must be given. -/
def readPronouns (d : Dialect) (levels : Nat) : Reader Pronouns := fun cs => do
  let names := ["heshe", "himher", "hisher", "manwoman", "waswere", "isare"]
  let field (name : String) (t : Table (List String)) : Reader (Table (List String)) := fun cs => do
    let (items, cs) ← texts cs
    return (t.insert name items, cs)
  let (t, cs) ← record "Pronouns" names (skipField d levels) field .empty cs
  return (⟨← t.get? "heshe", ← t.get? "himher", ← t.get? "hisher", ← t.get? "manwoman",
    ← t.get? "waswere", ← t.get? "isare"⟩, cs)

def readProfile (d : Dialect) (levels : Nat) : Reader GenderProfile := fun cs => do
  let field (name : String) (p : Option (List String) × Option Pronouns) :
      Reader (Option (List String) × Option Pronouns) := fun cs => do
    if name = "names" then
      let (names, cs) ← texts cs
      return ((some names, p.2), cs)
    else
      let (pronouns, cs) ← readPronouns d (levels - 2) cs
      return ((p.1, some pronouns), cs)
  let ((names, pronouns), cs) ←
    record "GenderProfile" ["names", "pronouns"] (skipField d levels) field (none, none) cs
  return (⟨← names, ← pronouns⟩, cs)

/-- Reads profiles and sets. The profiles stand two levels deeper than their table. -/
def readGenders (d : Dialect) (levels : Nat) : Reader Genders := fun cs => do
  let field (name : String) (p : Option (Table GenderProfile) × Option (Table (List String))) :
      Reader (Option (Table GenderProfile) × Option (Table (List String))) := fun cs => do
    if name = "profiles" then
      let (profiles, cs) ← table (readProfile d (levels - 4)) cs
      return ((some profiles, p.2), cs)
    else
      let (sets, cs) ← table texts cs
      return ((p.1, some sets), cs)
  let ((profiles, sets), cs) ←
    record "GenderCatalog" ["profiles", "sets"] (skipField d levels) field (none, none) cs
  return (⟨← profiles, ← sets⟩, cs)

/-- Reads gender definitions: profiles and sets, both of which must be given. -/
def ofText? (text : String) : Option Genders := whole (fun d => readGenders d maxLevels) text

end Genders

end ProseScript
