import ProseScript.Project
import ProseScript.Proofs.Files.Session

/-!
Bringing a project together. Main statement: settings, genders, vocabulary and program are only
read.
-/

namespace ProseScript

namespace Vocabulary

theorem onlyReads_readContents (dir : String) (entries : List (FileName × EntryKind)) :
    (readContents dir entries).OnlyReads := by
  induction entries with
  | nil => trivial
  | cons e rest ih =>
    obtain ⟨name, kind⟩ := e
    cases kind with
    | directory | other => exact ih.bind fun _ => trivial
    | file =>
      rw [readContents]
      cases setName? name with
      | none => exact ih.bind fun _ => trivial
      | some key => exact fun _ => ih.bind fun _ => trivial

theorem onlyReads_loadFolder (dir : String) : (loadFolder dir).OnlyReads := by
  intro r
  cases r with
  | error => trivial
  | ok entries => exact (onlyReads_readContents dir entries).bind fun _ => trivial

theorem onlyReads_loadStarting (root start : String) : (loadStarting root start).OnlyReads := by
  have folder : (findFolder root start).OnlyReads := by
    intro r
    cases r <;> trivial
  apply folder.bind
  intro r
  cases r with
  | error => trivial
  | ok found =>
    cases found with
    | none => trivial
    | some dir => exact onlyReads_loadFolder dir

theorem onlyReads_load (root sentenceStart wordStart : String) :
    (load root sentenceStart wordStart).OnlyReads := by
  apply (onlyReads_loadStarting root sentenceStart).bind
  intro sentences
  cases sentences with
  | error => trivial
  | ok =>
    apply (onlyReads_loadStarting root wordStart).bind
    intro words
    cases words <;> trivial

end Vocabulary

namespace RunSettings

theorem onlyReads_load (path : String) : (load path).OnlyReads := by
  intro r
  cases r with
  | error => trivial
  | ok text => simp only; split <;> trivial

theorem onlyReads_loadGenders (s : RunSettings) : s.loadGenders.OnlyReads := by
  unfold loadGenders
  split
  · trivial
  · intro r
    cases r with
    | error => trivial
    | ok text => simp only; split <;> trivial

theorem onlyReads_prepare (s : RunSettings) : s.prepare.OnlyReads := by
  unfold prepare
  split
  · trivial
  · apply s.onlyReads_loadGenders.bind
    intro genders
    cases genders with
    | error => trivial
    | ok =>
      apply (Vocabulary.onlyReads_load s.vocabularyRoot s.sentencePrefix s.wordPrefix).bind
      intro v
      cases v <;> trivial

end RunSettings

theorem Program.onlyReads_load (path : String) : (load path).OnlyReads := by
  intro r
  cases r with
  | error => trivial
  | ok source => simp only; split <;> trivial

end ProseScript
