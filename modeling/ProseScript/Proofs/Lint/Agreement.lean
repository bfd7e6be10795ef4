import ProseScript.Proofs.Lint.Findings
import ProseScript.Proofs.Run.Arrival
import ProseScript.Proofs.Run.Faults
import ProseScript.Proofs.Run.Follow
import ProseScript.Proofs.Run.Snippets
import ProseScript.Proofs.Run.StoreInvariant

/-!
The check of a program against its runs. Main statement: a program without problems never fails over
an unknown command, an unknown format, a nested block or the number of words of a field line, and a
node with a problem fails in every state, unless it makes more members than there is room for.
-/

namespace ProseScript.Lint

open FaultKind (overParameters)
open Node (Occurs)
open Run (Bursts FailsItself fillField fillFields nodes_singleton)

/-- The faults of a node without problems: its own, which are over parameters, or those of a field
line in its body, which are over its values. -/
theorem cases_of_failsItself {n : Node} {s : State} {f : Fault} (hclean : ∀ q, ¬ Finds n q)
    (h : FailsItself n s f) :
    f.Raised overParameters n.firstLine n.firstLine.keyword ∨
      ∃ opener body closer l, n = .block .gen opener body closer ∧ .line l ∈ body ∧
        f.Raised [.parameterValue, .unknownVariable, .typeMismatch] l "GEN" := by
  cases h with
  | unknown hidle hl => exact absurd (Finds.unknownCommand hidle hl) (hclean _)
  | write hl h => exact .inl (Run.raised_of_write _ _ h)
  | call hl h => exact .inl ((Run.faults_calledBody _ _ _ h).mono (by simp))
  | @simple l _ _ c hl hwrite hcall _ h =>
    rcases Run.faults_simple _ _ _ _ h with hf | ⟨-, rfl, codes, e, hcodes, he⟩ | ⟨-, hc⟩
    · exact .inl hf
    · exact absurd (Finds.badFormat hl hcodes he) (hclean _)
    · have hplain : c.isStructural = false := by
        simpa using (Option.filter_eq_some_iff.1 hl).2
      simp_all
  | @generate opener closer body _ _ _ h =>
    rcases Run.faults_generate _ _ _ _ h with hf | ⟨m, hm, hf⟩
    · exact .inl (hf.mono (by simp))
    cases m with
    | block kind inner ns last =>
      exact absurd (Finds.field hm (.nestedBlock kind inner ns last)) (hclean _)
    | line l =>
      rcases hf with hf | ⟨-, hidle, hcount⟩
      · exact .inr ⟨opener, body, closer, l, rfl, hm, hf⟩
      · exact absurd (Finds.field hm (.fieldWords hidle hcount)) (hclean _)
  | snippet h => exact .inl ((Run.faults_storeSnippet _ _ _ _ h).mono (by simp))
  | loop h => exact .inl ((Run.faults_loopTarget _ _ _ h).mono (by simp))

/-- A field line that can be run has no problem. -/
theorem not_findsField_of_fillField {l : Line} {members : List Entity} {s : State}
    {r : List Entity × State} (h : fillField l members s = .ok r) (q : Problem) :
    ¬ FindsField (.line l) q := by
  rintro ⟨⟩
  next hidle hcount =>
  simp only [fillField, hidle] at h
  split at h
  · simp at *
  split at h
  · next hwords =>
    simp only [hwords, List.length_cons] at hcount
    split at h
    · simp at h
    · omega
  · simp at h

theorem not_findsField_of_fillFields {ns : List Node} {members : List Entity} {s : State}
    {r : List Entity × State} (h : fillFields ns members s = .ok r) {n : Node} (hn : n ∈ ns)
    (q : Problem) : ¬ FindsField n q := by
  induction ns generalizing members s with
  | nil => simp at hn
  | cons m rest ih =>
    cases m with
    | block kind opener body closer => simp [fillFields] at h
    | line l =>
      simp only [fillFields] at h
      split at h
      · next hfield =>
        rcases List.mem_cons.1 hn with rfl | hn
        · exact not_findsField_of_fillField hfield q
        · exact ih h hn
      · simp at h

/-- A block with a problem in its body is never made. -/
theorem exists_error_of_findsField (opener : Line) {body : List Node} {m : Node} {q : Problem}
    (hm : m ∈ body) (h : FindsField m q) (s : State) : ∃ f, Run.generate opener body s = .error f := by
  cases hgen : Run.generate opener body s with
  | error f => exact ⟨f, rfl⟩
  | ok t =>
    obtain ⟨_, _, _, _, _, _, -, hfill, -⟩ := Run.parts_of_generate hgen
    exact absurd h (not_findsField_of_fillFields hfill hm q)

/-- A node with a problem fails in every state that has room for the members it makes. -/
theorem Finds.fails {n : Node} {q : Problem} (h : Finds n q) (limit : Nat) (s : State) :
    (∃ f, Run.nodes (limit + 1) [n] s = .failed f s.shown) ∨
      Bursts n { s with current := some n.firstLine } .capacity ∧
        Run.nodes (limit + 1) [n] s = .crashed .capacity s.shown := by
  rw [nodes_singleton]
  cases h with
  | unknownCommand hidle hl => exact .inl (by simp [Run.node, Run.line, hidle, hl])
  | @badFormat l codes e hl hcodes he =>
    have hidle : l.isIdle = false := Line.isIdle_of_ofLine? hl
    exact .inl (by simp [Run.node, Run.line, hidle, hl, Run.crash?, Run.simple, Style.ofCommand?,
      Run.setFormat, hcodes, he, Outcome.checked, Outcome.ofExcept])
  | @field opener closer body m _ hm hq =>
    cases hfull : Run.overfull opener { s with current := some opener } with
    | true =>
      have hbursts : Bursts (.block .gen opener body closer) { s with current := some opener }
          .capacity := .members hfull
      exact .inr ⟨hbursts, hbursts.node_eq _ _⟩
    | false =>
      obtain ⟨f, hf⟩ := exists_error_of_findsField opener hm hq { s with current := some opener }
      exact .inl ⟨f, by simp [Run.node, Run.genCrash?, hfull, hf, Outcome.checked, Outcome.ofExcept]⟩

/-- No node that the check looks at has a problem. -/
def Clean (p : Program) : Prop := ∀ n, Checked n p → ∀ q, ¬ Finds n q

theorem clean_iff {p : Program} : Clean p ↔ (program p).problems = [] := by
  rw [List.eq_nil_iff_forall_not_mem]
  simp only [mem_problems_program, Clean]
  grind

namespace Clean

variable {p : Program}

theorem of_body (hp : Clean p) {kind : BlockKind} {opener closer : Line} {body : List Node}
    (hkind : kind ≠ .gen) (hblock : .block kind opener body closer ∈ p) : Clean body := by
  intro n hn q
  exact hp n (.inside hkind hblock hn) q

/-- Blocks stand only where the check looks at them. -/
theorem checked_of_occurs (hp : Clean p) {kind : BlockKind} {opener closer : Line}
    {body : List Node} (h : Occurs (.block kind opener body closer) p) :
    Checked (.block kind opener body closer) p := by
  induction h with
  | here h => exact .here h
  | @inside ns outer outerKind first last hblock hbody ih =>
    by_cases hkind : outerKind = .gen
    · subst hkind
      -- A block in the body of a `GEN` block would be a problem of it.
      have hlines (inner : BlockKind) (l : Line) (ms : List Node) (l' : Line) :
          .block inner l ms l' ∉ outer := by
        intro hm
        exact hp _ (.here hblock) _ (.field hm (.nestedBlock inner l ms l'))
      cases hbody with
      | here hm => exact absurd hm (hlines _ _ _ _)
      | inside hm => exact absurd hm (hlines _ _ _ _)
    · exact .inside hkind hblock (ih (hp.of_body hkind hblock))

end Clean

/-- Stored snippets are made of nodes that the check looks at, as `DESC` blocks in the body of a `GEN`
block are never run. -/
theorem checked_invariant (p : Program) :
    Run.Invariant (fun n => Checked n p) (Run.Stocked fun _ body => ∀ n ∈ body, Checked n p) := by
  refine Run.Stocked.invariant ?_ ?_ ?_
  · intro opener body closer word hblock _ n hn
    exact hblock.of_body (by simp) hn
  · intro opener body closer hblock n hn
    exact hblock.of_body (by simp) hn
  · intro name body hbody
    exact hbody

/-- A run that fails has come to a node that the check looks at and that fails by itself. -/
theorem exists_checked_of_failed {limit : Nat} {u : Setup} {p : Program} {c : Chance} {f : Fault}
    {shown : Array String} (h : Run.program limit u p c = .failed f shown) :
    ∃ n s, Checked n p ∧ FailsItself n s f := by
  obtain ⟨n, t, hcomes, hself⟩ := Run.exists_comes_of_failed h
  obtain ⟨hn, -⟩ := (checked_invariant p).comes hcomes (fun _ hn => .here hn) (.initial _ u c)
  exact ⟨n, _, hn, hself⟩

/-- The fault is what a field line of the program fails with in some state. -/
def OfFieldLine (p : Program) (f : Fault) : Prop :=
  ∃ opener body closer l members s, Occurs (.block .gen opener body closer) p ∧ .line l ∈ body ∧
    fillField l members s = .error f

theorem Clean.not_ofFieldLine {p : Program} (hp : Clean p) {f : Fault}
    (hkind : f.kind = .parameterCount) : ¬ OfFieldLine p f := by
  rintro ⟨opener, body, closer, l, members, s, hblock, hl, hfault⟩
  rcases Run.faults_fillField l s members f hfault with hf | ⟨-, hidle, hcount⟩
  · simpa [hkind] using hf.kind_mem
  · exact hp _ (hp.checked_of_occurs hblock) _ (.field hl (.fieldWords hidle hcount))

/-- The check and the runs of a program agree. If the check reports no problem, no run fails over an
unknown command, an unknown format or a nested block, and a run that fails over the number of
parameters does so at a node outside the bodies of `GEN` blocks and never at one of their lines. If
it reports a problem, a node of the program has it, and whatever node has it fails in every state,
but for a block that crashes there as it makes more members than there is room for. -/
theorem check_agrees_with_runs (p : Program) :
    ((program p).problems = [] → ∀ limit u c f shown, Run.program limit u p c = .failed f shown →
      f.kind ≠ .unknownCommand ∧ f.kind ≠ .unknownFormatCode ∧ f.kind ≠ .nestedBlock ∧
      (f.kind = .parameterCount → ¬ OfFieldLine p f ∧
        ∃ n, Checked n p ∧ f.Raised [.parameterCount] n.firstLine n.firstLine.keyword)) ∧
    ∀ q ∈ (program p).problems, (∃ n, Checked n p ∧ Finds n q) ∧
      ∀ n, Finds n q → ∀ limit s, (∃ f, Run.nodes (limit + 1) [n] s = .failed f s.shown) ∨
        Bursts n { s with current := some n.firstLine } .capacity ∧
          Run.nodes (limit + 1) [n] s = .crashed .capacity s.shown := by
  constructor
  · intro hproblems limit u c f shown hfailed
    have hp : Clean p := clean_iff.2 hproblems
    obtain ⟨n, s, hn, hself⟩ := exists_checked_of_failed hfailed
    rcases cases_of_failsItself (hp n hn) hself with hf | ⟨_, _, _, l, -, -, hf⟩
    · refine ⟨hf.kind_ne (by simp), hf.kind_ne (by simp), hf.kind_ne (by simp), ?_⟩
      intro hkind
      exact ⟨hp.not_ofFieldLine hkind, n, hn, hf.command_eq, hf.line_eq, hf.text_eq, by simp [hkind]⟩
    · refine ⟨hf.kind_ne (by simp), hf.kind_ne (by simp), hf.kind_ne (by simp), ?_⟩
      intro hkind
      exact absurd hkind (hf.kind_ne (by simp))
  · intro q hq
    refine ⟨mem_problems_program.1 hq, ?_⟩
    intro n hn limit s
    exact hn.fails limit s

/-- A snippet makes a troupe with the given fields; after its call a line without parameters fails. -/
def castingProgram (fields : List Node) : Program := [
  .block .desc ⟨1, "DESC cast"⟩ [.block .gen ⟨2, "GEN troupe 2"⟩ fields ⟨4, "GENEND"⟩]
    ⟨5, "DESCEND"⟩,
  .line ⟨6, "CALL cast"⟩,
  .line ⟨7, "SHIFT"⟩]

theorem check_agrees_with_runs_troupe :
    let p := castingProgram [.line ⟨3, "pet 1 noun"⟩]
    let nested : Node := .block .loop ⟨3, "LOOP"⟩ [] ⟨3, "LOOPEND"⟩
    ((program p).problems = [] ∧
      ∃ f shown, Run.program 3 Run.crewSetup p ⟨fun _ => 0, 0⟩ = .failed f shown ∧ f.line = 7 ∧
        f.kind = .parameterCount ∧ ¬ OfFieldLine p f) ∧
    .nestedBlock ⟨3, "LOOP"⟩ .loop ∈ (program (castingProgram [nested])).problems ∧
      ∀ s, ∃ f, Run.nodes 1 [.block .gen ⟨2, "GEN troupe 2"⟩ [nested] ⟨4, "GENEND"⟩] s =
        .failed f s.shown := by
  intro p nested
  constructor
  · have hclean : (program p).problems = [] := by decide +kernel
    have hfault : (Run.program 3 Run.crewSetup p ⟨fun _ => 0, 0⟩).fault?.map
        (fun f => (f.line, f.kind)) = some (7, .parameterCount) := by
      decide +kernel
    obtain ⟨f, hf, hline⟩ := Option.map_eq_some_iff.1 hfault
    obtain ⟨shown, hfailed⟩ := Outcome.exists_failed hf
    obtain ⟨hseven, hkind⟩ := Prod.mk.inj hline
    obtain ⟨-, -, -, hcount⟩ := (check_agrees_with_runs p).1 hclean _ _ _ f shown hfailed
    exact ⟨hclean, f, shown, hfailed, hseven, hkind, (hcount hkind).1⟩
  · have hfound : .nestedBlock ⟨3, "LOOP"⟩ .loop ∈ (program (castingProgram [nested])).problems := by
      decide +kernel
    refine ⟨hfound, ?_⟩
    intro s
    have hroom {s : State} : Run.overfull ⟨2, "GEN troupe 2"⟩ s ≠ true := by
      intro hfull
      obtain ⟨word, options, n, chance, hwords, -, -, hcount, hlarge, -⟩ := Run.overfull_iff.1 hfull
      have htwo : Amount.ofCount? "2" = some (.count 2) := by decide +kernel
      obtain ⟨rfl, rfl⟩ : "troupe" = word ∧ ["2"] = options := by
        simpa [(by decide +kernel : (Line.mk 2 "GEN troupe 2").paramWords = ["troupe", "2"])]
          using hwords
      obtain ⟨rfl, -⟩ : 2 = n ∧ _ := by
        simpa [Run.memberCount, htwo, Amount.resolve_count] using hcount
      exact absurd hlarge (by decide)
    have hfinds : Finds (.block .gen ⟨2, "GEN troupe 2"⟩ [nested] ⟨4, "GENEND"⟩)
        (.nestedBlock ⟨3, "LOOP"⟩ .loop) :=
      .field List.mem_cons_self (.nestedBlock _ _ _ _)
    rcases ((check_agrees_with_runs _).2 _ hfound).2 _ hfinds 0 s with hfailed | ⟨hbursts, -⟩
    · exact hfailed
    · cases hbursts with
      | members hfull => exact absurd hfull hroom

/-- A block with a problem in its body that makes too many members. -/
def crowd : Node := .block .gen Run.crowdOpener [.line ⟨2, "mood"⟩] ⟨3, "GENEND"⟩

theorem check_disagrees_with_crowd :
    .fieldWords ⟨2, "mood"⟩ 1 ∈ (program [crowd]).problems ∧ Finds crowd (.fieldWords ⟨2, "mood"⟩ 1) ∧
    Run.nodes 1 [crowd] (Run.crewSetup.initial ⟨fun _ => 0, 0⟩) = .crashed .capacity #[] := by
  have hword : (Text.words "mood").length = 1 := by decide +kernel
  have hfield : FindsField (.line ⟨2, "mood"⟩) (.fieldWords ⟨2, "mood"⟩ 1) := by
    have hcount := FindsField.fieldWords (l := ⟨2, "mood"⟩) (by decide +kernel) (by simp [hword])
    rwa [hword] at hcount
  refine ⟨by decide +kernel, .field List.mem_cons_self hfield, ?_⟩
  rw [nodes_singleton]
  exact Bursts.node_eq (.members (Run.overfull_crowdOpener _)) _ _

end ProseScript.Lint
