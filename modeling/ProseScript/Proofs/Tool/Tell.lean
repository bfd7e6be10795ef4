import ProseScript.Proofs.Files.Tree
import ProseScript.Proofs.Project
import ProseScript.Tool.Tell

/-!
What the tool that tells stories leaves behind. Main statement: it harms no file. A run that fails
leaves all files as they were, and one that does not adds one file with the sentences of its output.
-/

namespace ProseScript.Tool

open Session

/-- The stream of a seed; without one, the stream of any seed. -/
def Fresh (seed : Option Nat) (chance : Chance) : Prop :=
  ∃ n : UInt64, chance = .seeded n ∧ ∀ given, seed = some given → n = given.toUInt64

/-- All that a run starts from, as it is read out of a world. -/
structure Ready (a : StoryArguments) (w : World) where
  settings : RunSettings
  setup : Setup
  warnings : List Warning
  program : Program
  configured : (storySettings a).run w = (.ok settings, w)
  prepared : settings.prepare.run w = (.ok (setup, warnings), w)
  loaded : (Program.load a.program).run w = (.ok program, w)

/-- A program run to its end. -/
structure Tale (a : StoryArguments) (w : World) extends Ready a w where
  chance : Chance
  state : State
  fresh : Fresh settings.seed chance
  finished : Run.program Run.ample setup program chance = .finished state

/-- The next line of the input, without the blanks around it. -/
def typedName (input : List Char) : String :=
  Text.trim (String.ofList (input.takeWhile (· ≠ '\n')))

/-- The file that an output goes to: the one asked for, else one with a proposed name, else, where
that is taken, the one with the name typed. -/
inductive GoesTo (a : StoryArguments) (s : RunSettings) (output : List String) (files : FileTree)
    (input : List Char) : String → Prop
  | asked {path : String} (h : a.output = some path) : GoesTo a s output files input path
  | proposed {chance : Chance} (h : a.output = none) (fresh : Fresh s.seed chance)
      (free : files.holds (s.namePolicy.propose output chance).1 = false) :
      GoesTo a s output files input (s.namePolicy.propose output chance).1
  | typed {chance : Chance} (h : a.output = none) (fresh : Fresh s.seed chance)
      (taken : files.holds (s.namePolicy.propose output chance).1 = true)
      (answered : typedName input ≠ "") : GoesTo a s output files input (typedName input)

/-- The path is a proposed name that is taken, and no other is typed for it. -/
structure KeepsTaken (a : StoryArguments) (s : RunSettings) (output : List String)
    (files : FileTree) (input : List Char) (path : String) : Prop where
  unasked : a.output = none
  proposed : ∃ chance, Fresh s.seed chance ∧ path = (s.namePolicy.propose output chance).1
  unanswered : typedName input = ""
  taken : files.holds path = true

/-- The fault of a story that could not be written. -/
def storyFault (path : String) : FileFault → StoryFault
  | .alreadyExists => .exists path
  | fault => .blocked path fault

/-- What a telling may fail of, from the settings to the file. -/
inductive Failure (a : StoryArguments) (w : World) : ProjectFault → Prop
  | settings {fault : SettingsFault} (h : (storySettings a).run w = (.error fault, w)) :
      Failure a w (.settings fault)
  | preparation {s : RunSettings} {fault : ProjectFault}
      (configured : (storySettings a).run w = (.ok s, w))
      (h : s.prepare.run w = (.error fault, w)) : Failure a w fault
  | program {s : RunSettings} {setup : Setup × List Warning} {fault : ProjectFault}
      (configured : (storySettings a).run w = (.ok s, w))
      (prepared : s.prepare.run w = (.ok setup, w))
      (h : (Program.load a.program).run w = (.error fault, w)) : Failure a w fault
  | script (ready : Ready a w) {chance : Chance} {fault : Fault} {shown : Array String}
      (fresh : Fresh ready.settings.seed chance)
      (h : Run.program Run.ample ready.setup ready.program chance = .failed fault shown) :
      Failure a w (.script fault)
  | crash (ready : Ready a w) {chance : Chance} {crash : Crash} {shown : Array String}
      (fresh : Fresh ready.settings.seed chance)
      (h : Run.program Run.ample ready.setup ready.program chance = .crashed crash shown) :
      Failure a w (.crashed crash)
  | unfinished (ready : Ready a w) {chance : Chance} (fresh : Fresh ready.settings.seed chance)
      (h : Run.program Run.ample ready.setup ready.program chance = .unfinished) :
      Failure a w .unfinished
  | story (tale : Tale a w) {path : String} {fault : FileFault}
      (goes : GoesTo a tale.settings tale.state.output.toList w.files w.input path ∨
        KeepsTaken a tale.settings tale.state.output.toList w.files w.input path)
      (h : w.files.create path (String.join tale.state.output.toList) = .error fault) :
      Failure a w (.story (storyFault path fault))

/-- The story of a finished run is in a new file, and nothing else is new. -/
def Told (a : StoryArguments) (w : World) (files : FileTree) : Prop :=
  ∃ (tale : Tale a w) (path : String) (place : List FileName),
    GoesTo a tale.settings tale.state.output.toList w.files w.input path ∧
      w.files.Gains path (String.join tale.state.output.toList) place files

theorem Told.keeps {a : StoryArguments} {w : World} {files : FileTree} (h : Told a w files) :
    w.files.Keeps files := by
  obtain ⟨_, _, _, _, gains⟩ := h
  exact gains.keeps

/-- How a use of the tool may end: with a story told, or with all files as they were. What it fails
of is complained of. -/
def Ending (args : List String) (w : World) (code : Nat) (w' : World) : Prop :=
  match storyRequest args with
  | .run a =>
      (code = 0 ∧ Told a w w'.files) ∨
        (w'.files = w.files ∧ ∃ fault, code = fault.exitCode ∧ Failure a w fault ∧
          w'.complained = w.complained ++ (fault.message ++ "\n"))
  | .help => code = 0 ∧ w'.files = w.files
  | .misuse => code = 2 ∧ w'.files = w.files

theorem Ending.keeps {args : List String} {w w' : World} {code : Nat} (h : Ending args w code w') :
    w.files.Keeps w'.files := by
  unfold Ending at h
  split at h
  · obtain ⟨-, told⟩ | ⟨files, -⟩ := h
    · exact told.keeps
    · exact files ▸ .refl _
  · exact h.2 ▸ .refl _
  · exact h.2 ▸ .refl _

variable {a : StoryArguments} {s : RunSettings} {output : List String} {path : String} {w w' : World}

theorem onlyReads_storySettings (a : StoryArguments) : (storySettings a).OnlyReads := by
  unfold storySettings
  split
  · exact (RunSettings.onlyReads_load _).bind fun _ => trivial
  · trivial

theorem ends_freshChance {seed : Option Nat} {chance : Chance}
    (h : (freshChance seed).Ends w chance w') : Fresh seed chance ∧ w' = w := by
  unfold freshChance at h
  cases seed with
  | none =>
    cases h with | seed n h =>
    cases h
    exact ⟨⟨n, rfl, nofun⟩, rfl⟩
  | some given =>
    cases h
    exact ⟨⟨_, rfl, fun _ hg => by rw [Option.some.inj hg]⟩, rfl⟩

theorem ends_sayAll {texts : List String} {u : Unit} (h : (sayAll texts).Ends w u w') :
    ∃ said, w' = { w with said } := by
  unfold sayAll at h
  cases h with | say h =>
  cases h
  exact ⟨_, rfl⟩

/-- The path is where the output goes, or a proposed name that is kept though it is taken. -/
theorem ends_storyPath (h : (storyPath a s output).Ends w path w') :
    w'.files = w.files ∧ w'.complained = w.complained ∧
      (GoesTo a s output w.files w.input path ∨ KeepsTaken a s output w.files w.input path) := by
  unfold storyPath at h
  split at h
  · rename_i asked ha
    cases h
    exact ⟨rfl, rfl, .inl (.asked ha)⟩
  · rename_i ha
    obtain ⟨chance, v, hc, hname⟩ := h.of_bind
    obtain ⟨fresh, rfl⟩ := ends_freshChance hc
    cases hname with | holds hname =>
    cases taken : v.files.holds (s.namePolicy.propose output chance).1 with
    | false =>
      rw [taken] at hname
      cases hname
      exact ⟨rfl, rfl, .inl (.proposed ha fresh taken)⟩
    | true =>
      rw [taken] at hname
      cases hname with | say hname =>
      cases hname with | ask typed hname =>
      subst typed
      cases hname
      refine ⟨rfl, rfl, ?_⟩
      split
      · rename_i unanswered
        exact .inr ⟨ha, ⟨chance, fresh, rfl⟩, String.isEmpty_iff.1 unanswered, taken⟩
      · rename_i answered
        exact .inl (.typed ha fresh taken (mt String.isEmpty_iff.2 answered))

theorem writeStory_eq (path : String) (output : List String) :
    writeStory path output = .create path (String.join output) fun
      | .ok () => .done (.ok ())
      | .error fault => .done (.error (storyFault path fault)) := by
  unfold writeStory
  congr
  funext r
  cases r with
  | ok => rfl
  | error fault => cases fault <;> rfl

theorem ends_writeStory {r : Except StoryFault Unit} (h : (writeStory path output).Ends w r w') :
    w'.complained = w.complained ∧
      ((∃ fault, r = .error (storyFault path fault) ∧ w'.files = w.files ∧
        w.files.create path (String.join output) = .error fault) ∨
      (r = .ok () ∧ w.files.create path (String.join output) = .ok w'.files)) := by
  rw [writeStory_eq] at h
  cases h with
  | made made h =>
    cases h
    exact ⟨rfl, .inr ⟨rfl, made⟩⟩
  | refused refused h =>
    cases h
    exact ⟨rfl, .inl ⟨_, rfl, rfl, refused⟩⟩

/-- An output is written to a new file where it goes, or nothing is written. -/
theorem ends_written {v : World} {said : String} {r : Except StoryFault Unit}
    (hpath : (storyPath a s output).Ends w path v)
    (hwrite : (writeStory path output).Ends { v with said } r w') :
    w'.complained = w.complained ∧
      ((∃ fault, r = .error (storyFault path fault) ∧ w'.files = w.files ∧
        (GoesTo a s output w.files w.input path ∨ KeepsTaken a s output w.files w.input path) ∧
        w.files.create path (String.join output) = .error fault) ∨
      (r = .ok () ∧ GoesTo a s output w.files w.input path ∧
        ∃ place, w.files.Gains path (String.join output) place w'.files)) := by
  obtain ⟨files, complained, goes⟩ := ends_storyPath hpath
  obtain ⟨quiet, outcome⟩ := ends_writeStory hwrite
  change w'.complained = v.complained at quiet
  simp only [files] at outcome
  rw [complained] at quiet
  obtain ⟨fault, rfl, kept, refused⟩ | ⟨rfl, made⟩ := outcome
  · exact ⟨quiet, .inl ⟨fault, rfl, kept, goes, refused⟩⟩
  · have goes := goes.resolve_right fun keeps => FileTree.create_of_holds keeps.taken made
    exact ⟨quiet, .inr ⟨rfl, goes, FileTree.gains_of_create made⟩⟩

/-- A program that runs to its end is told in a new file; one that does not, or whose story cannot
be written, leaves all files as they are. -/
theorem ends_tellStory {r : Except ProjectFault Unit} (h : (tellStory a).Ends w r w') :
    w'.complained = w.complained ∧
      ((∃ fault, r = .error fault ∧ Failure a w fault ∧ w'.files = w.files) ∨
      (r = .ok () ∧ Told a w w'.files)) := by
  have quits {fault : ProjectFault} {said : String} (failure : Failure a w fault)
      (h : (pure (.error fault) : Session (Except ProjectFault Unit)).Ends { w with said } r w') :
      w'.complained = w.complained ∧
        ((∃ fault, r = .error fault ∧ Failure a w fault ∧ w'.files = w.files) ∨
        (r = .ok () ∧ Told a w w'.files)) := by
    obtain ⟨rfl, rfl⟩ := h.of_pure
    exact ⟨rfl, .inl ⟨fault, rfl, failure, rfl⟩⟩
  unfold tellStory at h
  obtain ⟨settings, w₁, hs, h₁⟩ := h.of_bind
  obtain ⟨configured, rfl⟩ := (onlyReads_storySettings a).run_eq hs
  cases settings with
  | error => exact quits (.settings configured) h₁
  | ok s =>
  obtain ⟨prepared, w₂, hp, h₂⟩ := h₁.of_bind
  obtain ⟨hprepared, rfl⟩ := s.onlyReads_prepare.run_eq hp
  cases prepared with
  | error => exact quits (.preparation configured hprepared) h₂
  | ok prepared =>
  obtain ⟨setup, warnings⟩ := prepared
  obtain ⟨program, w₃, hl, h₃⟩ := h₂.of_bind
  obtain ⟨loaded, rfl⟩ := (Program.onlyReads_load a.program).run_eq hl
  cases program with
  | error => exact quits (.program configured hprepared loaded) h₃
  | ok p =>
  let ready : Ready a w₃ :=
    { settings := s, setup, warnings, program := p, configured, prepared := hprepared, loaded }
  obtain ⟨chance, w₄, hc, h₄⟩ := h₃.of_bind
  obtain ⟨fresh, rfl⟩ := ends_freshChance hc
  cases finished : Run.program Run.ample setup p chance with
  | failed fault shown =>
    simp only [finished] at h₄
    obtain ⟨_, w₅, hsay, h₅⟩ := h₄.of_bind
    obtain ⟨said, rfl⟩ := ends_sayAll hsay
    exact quits (.script ready fresh finished) h₅
  | crashed crash shown =>
    simp only [finished] at h₄
    obtain ⟨_, w₅, hsay, h₅⟩ := h₄.of_bind
    obtain ⟨said, rfl⟩ := ends_sayAll hsay
    exact quits (.crash ready fresh finished) h₅
  | unfinished =>
    simp only [finished] at h₄
    exact quits (.unfinished ready fresh finished) h₄
  | finished state =>
    let tale : Tale a w₄ := { ready with chance, state, fresh, finished }
    simp only [finished] at h₄
    obtain ⟨_, w₅, hsay, h₅⟩ := h₄.of_bind
    obtain ⟨said, rfl⟩ := ends_sayAll hsay
    obtain ⟨path, w₆, hpath, h₆⟩ := h₅.of_bind
    obtain ⟨_, w₇, htold, h₇⟩ := h₆.of_bind
    cases htold with | say htold =>
    cases htold
    obtain ⟨written, w₈, hwrite, h₈⟩ := h₇.of_bind
    obtain ⟨quiet, outcome⟩ := ends_written hpath hwrite
    obtain ⟨fault, rfl, files, goes, refused⟩ | ⟨rfl, goes, place, gains⟩ := outcome
    · obtain ⟨rfl, rfl⟩ := h₈.of_pure
      exact ⟨quiet, .inl ⟨_, rfl, .story tale goes refused, files⟩⟩
    · obtain ⟨rfl, rfl⟩ := h₈.of_pure
      exact ⟨quiet, .inr ⟨rfl, tale, path, place, goes, gains⟩⟩

theorem ends_tell {tool : String} {args : List String} {code : Nat}
    (h : (tell tool args).Ends w code w') : Ending args w code w' := by
  unfold tell at h
  unfold Ending
  cases hr : storyRequest args with
  | help =>
    simp only [hr] at h ⊢
    cases h with | say h =>
    cases h
    exact ⟨rfl, rfl⟩
  | misuse =>
    simp only [hr] at h ⊢
    cases h with | complain h =>
    cases h
    exact ⟨rfl, rfl⟩
  | run a =>
    simp only [hr] at h ⊢
    obtain ⟨r, v, htell, hend⟩ := h.of_bind
    obtain ⟨complained, ⟨fault, rfl, failure, files⟩ | ⟨rfl, told⟩⟩ := ends_tellStory htell
    · cases hend with | complain hend =>
      cases hend
      exact .inr ⟨files, fault, rfl, failure, by rw [← complained]⟩
    · obtain ⟨rfl, rfl⟩ := hend.of_pure
      exact .inl ⟨rfl, told⟩

/-- Telling stories harms no file. A run that fails leaves all files as they are and says why; one
that does not adds one file, in which the sentences of its output stand one after the other. -/
theorem tell_harms_no_file {tool : String} {args : List String} {code : Nat}
    (h : (tell tool args).Ends w code w') :
    w.files.Keeps w'.files ∧
      (∀ path text, w.files.read path = .ok text → w'.files.read path = .ok text) ∧
      Ending args w code w' :=
  have ending := ends_tell h
  ⟨ending.keeps, fun _ _ => ending.keeps.read, ending⟩

/-- A world where the name proposed for a program of one empty line is taken. -/
def nameTaken : World where
  files := ⟨[(["v"], .directory), (["p"], .text "NEWLINE\n"),
    (["YourStory_8213.md"], .text "kept")]⟩
  input := "o.md\n".toList
  said := ""
  complained := ""
  entropy := 0

theorem tell_harms_no_file_typed :
    let after := ((tell "proseloop" ["p", "--vocab", "v"]).run nameTaken).2.files
    nameTaken.files.Keeps after ∧ Told ⟨"p", none, some "v", none, none⟩ nameTaken after ∧
      after.find "o.md" = .entry ["o.md"] (.text "   \n") := by
  have request : storyRequest ["p", "--vocab", "v"] = .run ⟨"p", none, some "v", none, none⟩ := by
    decide +kernel
  have code : ((tell "proseloop" ["p", "--vocab", "v"]).run nameTaken).1 = 0 := by decide +kernel
  have harmless :=
    tell_harms_no_file (ends_run (tell "proseloop" ["p", "--vocab", "v"]) nameTaken)
  rw [Ending, request, code] at harmless
  obtain ⟨kept, -, ⟨-, told⟩ | ⟨-, fault, failed, -⟩⟩ := harmless
  · exact ⟨kept, told, by decide +kernel⟩
  · exact absurd failed.symm fault.exitCode_ne_zero

end ProseScript.Tool
