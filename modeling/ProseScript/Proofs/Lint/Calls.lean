import ProseScript.Proofs.Lint.Agreement
import ProseScript.Proofs.Run.Ready

/-!
The check of calls against runs. Main statement: in a program without findings a call finds its
snippet stored, unless every earlier `DESC` block of that name stands in the body of another one that
has been closed.
-/

namespace ProseScript.Lint

open Node (Occurs described describedBy describedIn stores storesIn)
open Run (Calls Comes FailsItself HasStored Place Ready)

theorem append_subset_append {xs xs' ys ys' : List String} (h : xs ⊆ xs') (h' : ys ⊆ ys') :
    xs ++ ys ⊆ xs' ++ ys' := by
  intro d hd
  exact List.mem_append.2 ((List.mem_append.1 hd).imp (h ·) (h' ·))

/-- Walking on adds calls at the end and notes no names but the given ones. -/
structure Walks (names : List String) (r r' : Report) : Prop where
  calls : r.earlyCalls <+: r'.earlyCalls
  described : r'.described ⊆ names ++ r.described

namespace Walks

variable {names names' : List String} {r r' r'' : Report}

theorem same (hcalls : r'.earlyCalls = r.earlyCalls) (hdescribed : r'.described = r.described) :
    Walks [] r r' :=
  ⟨hcalls ▸ List.prefix_rfl, hdescribed ▸ List.Subset.refl _⟩

theorem mono (h : Walks names r r') (hsub : names ⊆ names') : Walks names' r r' where
  calls := h.calls
  described := List.Subset.trans h.described (append_subset_append hsub (List.Subset.refl _))

theorem trans (h : Walks names r r') (h' : Walks names' r' r'') : Walks (names ++ names') r r'' where
  calls := h.calls.trans h'.calls
  described := by
    intro d hd
    have hlast := List.mem_append.1 (h'.described hd)
    have hfirst (hd : d ∈ r'.described) := List.mem_append.1 (h.described hd)
    simp only [List.mem_append]
    tauto

theorem line (l : Line) (r : Report) : Walks [] r (Lint.line l r) := by
  unfold Lint.line
  split
  · exact same rfl rfl
  dsimp only
  split
  · exact same rfl rfl
  · split
    · split
      · exact same rfl rfl
      · exact same rfl rfl
    · exact same rfl rfl
  · split
    · split
      · exact same rfl rfl
      · exact ⟨List.prefix_append _ _, List.Subset.refl _⟩
    · exact same rfl rfl
  · exact same rfl rfl

theorem fieldNode (n : Node) (r : Report) : Walks [] r (Lint.fieldNode r n) := by
  cases n with
  | block kind opener body closer => exact same rfl rfl
  | line l =>
    simp only [Lint.fieldNode]
    split
    · exact same rfl rfl
    · split
      · exact same rfl rfl
      · exact same rfl rfl

theorem fields (body : List Node) (r : Report) : Walks [] r (body.foldl Lint.fieldNode r) := by
  induction body generalizing r with
  | nil => exact same rfl rfl
  | cons n rest ih => exact (fieldNode n r).trans (ih _)

theorem addBlock (r : Report) : Walks [] r r.addBlock := same rfl rfl

theorem describe (opener : Line) (r : Report) :
    Walks (describedBy .desc opener) r (r.describe opener) := by
  have hcalls : (r.describe opener).earlyCalls = r.earlyCalls := by
    unfold Report.describe
    split <;> rfl
  have hdescribed : (r.describe opener).described = describedBy .desc opener ++ r.described := by
    simp only [Report.describe, describedBy]
    rcases opener.paramWords with _ | ⟨word, _ | ⟨_, _⟩⟩ <;> rfl
  exact ⟨hcalls ▸ List.prefix_rfl, hdescribed ▸ List.Subset.refl _⟩

mutual

theorem node : (n : Node) → (r : Report) → Walks n.described r (Lint.node n r)
  | .line l, r => line l r
  | .block .gen opener body closer, r => by
    rw [Lint.node]
    exact ((addBlock r).trans (fields body _)).mono (List.nil_subset _)
  | .block .desc opener body closer, r => by
    rw [Lint.node, Node.described]
    exact (addBlock r).trans ((describe opener _).trans (nodes body _))
  | .block .loop opener body closer, r => by
    rw [Lint.node, Node.described]
    exact (addBlock r).trans (nodes body _)

theorem nodes : (ns : List Node) → (r : Report) → Walks (describedIn ns) r (Lint.nodes ns r)
  | [], r => same rfl rfl
  | n :: rest, r => by
    rw [Lint.nodes, describedIn]
    exact (node n r).trans (nodes rest _)

end

theorem calls_eq_nil (h : Walks names r r') (hnil : r'.earlyCalls = []) : r.earlyCalls = [] :=
  List.prefix_nil.1 (hnil ▸ h.calls)

end Walks

/-- Wherever the check is in the program, it has noted only names described before, and goes on
without a finding if it ends without one. -/
theorem exists_report_of_place {p : Program} (hp : (program p).earlyCalls = [])
    {seen known : List String} {ns : List Node} (h : Place p seen known ns) :
    ∃ r, r.described ⊆ seen ∧ (nodes ns r).earlyCalls = [] := by
  induction h with
  | start => exact ⟨.empty, List.Subset.refl _, hp⟩
  | @after _ _ n rest _ ih =>
    obtain ⟨r, hr, hcalls⟩ := ih
    refine ⟨node n r, ?_, hcalls⟩
    have hnode := (Walks.node n r).described
    exact List.Subset.trans hnode (append_subset_append (List.Subset.refl _) hr)
  | @inLoop _ _ opener closer body rest _ ih =>
    obtain ⟨r, hr, hcalls⟩ := ih
    exact ⟨r.addBlock, hr, (Walks.nodes rest _).calls_eq_nil hcalls⟩
  | @inDesc _ _ opener closer body rest _ ih =>
    obtain ⟨r, hr, hcalls⟩ := ih
    refine ⟨r.addBlock.describe opener, ?_, (Walks.nodes rest _).calls_eq_nil hcalls⟩
    have hdesc := (Walks.describe opener r.addBlock).described
    exact List.Subset.trans hdesc (append_subset_append (List.Subset.refl _) hr)

/-- A call that the check lets pass is of a name described before. -/
theorem seen_of_call {p : Program} (hp : (program p).earlyCalls = []) {seen known : List String}
    {l : Line} {rest : List Node} (h : Place p seen known (.line l :: rest)) {d : String}
    (hcall : Calls l d) : d ∈ seen := by
  obtain ⟨hl, word, hword, rfl⟩ := hcall
  obtain ⟨r, hr, hcalls⟩ := exists_report_of_place hp h
  have hline : (line l r).earlyCalls = [] := (Walks.nodes rest _).calls_eq_nil hcalls
  have hidle : l.isIdle = false := Line.isIdle_of_ofLine? hl
  by_contra hseen
  have hnew : Text.lower word ∉ r.described := fun hd => hseen (hr hd)
  simp [line, hidle, hl, hword, Report.addCommand, hnew] at hline

/-- A call of a name that is described before it, but only in the bodies of closed `DESC` blocks. -/
def ShutCall (p : Program) (l : Line) : Prop :=
  ∃ seen known rest d, Place p seen known (.line l :: rest) ∧ Calls l d ∧ d ∈ seen ∧ d ∉ known

/-- A call that a run comes to finds its snippet, or is shut off from the blocks that describe it. -/
theorem stored_or_shutCall {p : Program} (hp : (program p).earlyCalls = []) {limit : Nat}
    {u : Setup} {c : Chance} {l : Line} {t : State} (h : Comes limit p (u.initial c) (.line l) t)
    {d : String} (hcall : Calls l d) : t.store.snippets.contains d = true ∨ ShutCall p l := by
  obtain ⟨seen, known, rest, hplace, hstored⟩ := (Ready.initial p u c).comes h .start
  by_cases hd : d ∈ known
  · exact .inl (hstored d hd)
  · exact .inr ⟨seen, known, rest, d, hplace, hcall, seen_of_call hp hplace hcall, hd⟩

/-- Only a call that finds no snippet fails over an unknown variable on a line that calls. -/
theorem call_of_failsItself {n : Node} {s : State} {f : Fault} (h : FailsItself n s f) {l : Line}
    (hl : Command.ofLine? l = some .call) (hf : f.Raised [.unknownVariable] l l.keyword) :
    n = .line l ∧ ∃ d, Calls l d ∧ s.store.snippets.contains d = false := by
  have hkind : f.kind = .unknownVariable := by simpa using hf.kind_mem
  have hsame {l' : Line} {kinds : List FaultKind} {command : String}
      (hf' : f.Raised kinds l' command) : l' = l := by
    have hnumber := hf'.line_eq.symm.trans hf.line_eq
    have htext := hf'.text_eq.symm.trans hf.text_eq
    cases l'
    cases l
    simp_all
  cases h with
  | unknown hidle hnone => simp [Fault.unknownCommand, Fault.on] at hkind
  | write hwrite h => simp_all [hsame (Run.raised_of_write _ _ h)]
  | call hcall h =>
    obtain ⟨word, hword, hmissing⟩ := Run.missing_of_calledBody h hkind
    obtain rfl := hsame (Run.faults_calledBody _ _ _ h)
    exact ⟨rfl, Text.lower word, ⟨hcall, word, hword, rfl⟩, hmissing⟩
  | simple hother hwrite hcall _ h =>
    rcases Run.faults_simple _ _ _ _ h with hf' | ⟨hf', -⟩ | ⟨hf', -⟩
    · simp_all [hsame hf']
    · simp_all [hsame hf']
    · simp_all [hsame hf']
  | generate _ h =>
    rcases Run.faults_generate _ _ _ _ h with hown | ⟨m, hm, hfield⟩
    · exact absurd hkind (hown.kind_ne (by simp))
    · have hgen : l.keyword = "GEN" := hf.command_eq.symm.trans hfield.raisedOn.command_eq
      have hnone : Command.ofLine? l = none := by
        rw [Command.ofLine?, hgen]
        decide +kernel
      simp [hnone] at hl
  | snippet h => exact absurd hkind ((Run.faults_storeSnippet _ _ _ _ h).kind_ne (by simp))
  | loop h => exact absurd hkind ((Run.faults_loopTarget _ _ _ h).kind_ne (by simp))

/-- No name is described in the body of a `DESC` block. -/
def Flat (p : Program) : Prop :=
  ∀ opener body closer, Occurs (.block .desc opener body closer) p → describedIn body = []

section Flat

variable {p : Program}

mutual

/-- Without `DESC` blocks in one another, a node stores all the names described in it. -/
theorem described_subset_stores (hp : Clean p) (hflat : Flat p) :
    (n : Node) → Checked n p → n.described ⊆ n.stores
  | .line l, _ => List.Subset.refl _
  | .block .gen opener body closer, hn => by
    have hnone : describedIn body = [] := by
      refine List.eq_nil_iff_forall_not_mem.2 fun d => Node.not_mem_describedIn.2 ?_
      intro m hm
      cases m with
      | line l => simp [described]
      | block kind inner ns last =>
        exact absurd (Finds.field hm (.nestedBlock kind inner ns last)) (hp _ hn _)
    simp [described, describedBy, hnone]
  | .block .desc opener body closer, hn => by
    simp [described, stores, hflat opener body closer hn.occurs]
  | .block .loop opener body closer, hn => by
    have hbody (m : Node) (hm : m ∈ body) : Checked m p := hn.of_body (by simp) hm
    simpa [described, describedBy, stores] using
      describedIn_subset_storesIn hp hflat body hbody

theorem describedIn_subset_storesIn (hp : Clean p) (hflat : Flat p) :
    (ns : List Node) → (∀ n ∈ ns, Checked n p) → describedIn ns ⊆ storesIn ns
  | [], _ => List.Subset.refl _
  | n :: rest, hns => by
    have hfirst := described_subset_stores hp hflat n (hns n List.mem_cons_self)
    have hrest := describedIn_subset_storesIn hp hflat rest fun m hm =>
      hns m (List.mem_cons_of_mem _ hm)
    rw [describedIn, storesIn]
    exact append_subset_append hfirst hrest

end

theorem seen_subset_known (hp : Clean p) (hflat : Flat p) {seen known : List String}
    {ns : List Node} (h : Place p seen known ns) :
    (∀ n ∈ ns, Checked n p) ∧ seen ⊆ known := by
  induction h with
  | start => exact ⟨fun n hn => .here hn, List.Subset.refl _⟩
  | @after _ _ n rest _ ih =>
    obtain ⟨hns, hsub⟩ := ih
    have hfirst := described_subset_stores hp hflat n (hns n List.mem_cons_self)
    exact ⟨fun m hm => hns m (List.mem_cons_of_mem _ hm), append_subset_append hfirst hsub⟩
  | inLoop _ ih =>
    obtain ⟨hns, hsub⟩ := ih
    exact ⟨fun m hm => (hns _ List.mem_cons_self).of_body (by simp) hm, hsub⟩
  | inDesc _ ih =>
    obtain ⟨hns, hsub⟩ := ih
    exact ⟨fun m hm => (hns _ List.mem_cons_self).of_body (by simp) hm,
      append_subset_append (List.Subset.refl _) hsub⟩

theorem not_shutCall (hp : Clean p) (hflat : Flat p) (l : Line) : ¬ ShutCall p l := by
  rintro ⟨seen, known, rest, d, hplace, -, hseen, hknown⟩
  exact hknown ((seen_subset_known hp hflat hplace).2 hseen)

end Flat

/-- In a program without findings every call that a run comes to finds its snippet stored, and no run
fails over an unknown variable at a call, apart from calls of names whose earlier `DESC` blocks all
stand in the bodies of closed `DESC` blocks. Without `DESC` blocks in one another there are no such
calls. -/
theorem calls_find_snippets {p : Program} (hproblems : (program p).problems = [])
    (hcalls : (program p).earlyCalls = []) :
    (∀ (limit : Nat) (u : Setup) (c : Chance) (l : Line) (t : State) (d : String),
      Comes limit p (u.initial c) (.line l) t → Calls l d →
        t.store.snippets.contains d = true ∨ ShutCall p l) ∧
    (∀ limit u c f shown l, Run.program limit u p c = .failed f shown →
      Command.ofLine? l = some .call → f.Raised [.unknownVariable] l l.keyword → ShutCall p l) ∧
    (Flat p → ∀ l, ¬ ShutCall p l) := by
  have hfound {limit : Nat} {u : Setup} {c : Chance} {l : Line} {t : State} {d : String}
      (h : Comes limit p (u.initial c) (.line l) t) (hcall : Calls l d) :=
    stored_or_shutCall hcalls h hcall
  refine ⟨fun limit u c l t d h hcall => hfound h hcall, ?_, ?_⟩
  · intro limit u c f shown l hfailed hl hf
    obtain ⟨n, t, hcomes, hself⟩ := Run.exists_comes_of_failed hfailed
    obtain ⟨rfl, d, hcall, hmissing⟩ := call_of_failsItself hself hl hf
    rcases hfound hcomes hcall with hstored | hshut
    · have hmissing : t.store.snippets.contains d = false := hmissing
      simp [hstored] at hmissing
    · exact hshut
  · intro hflat l
    exact not_shutCall (clean_iff.2 hproblems) hflat l

/-- Calls a name that is described only inside another block, which is never called. -/
def nestedDescs : Program := [
  .block .desc ⟨1, "DESC outer"⟩
    [.block .desc ⟨2, "DESC inner"⟩ [.line ⟨3, "NEWLINE"⟩] ⟨4, "DESCEND"⟩] ⟨5, "DESCEND"⟩,
  .line ⟨6, "CALL inner"⟩]

theorem calls_find_snippets_opening :
    ((program Run.openingCalls).problems = [] ∧ (program Run.openingCalls).earlyCalls = [] ∧
      Flat Run.openingCalls ∧ ∀ l, ¬ ShutCall Run.openingCalls l) ∧
    ∃ f shown, Run.program 2 Run.crewSetup nestedDescs ⟨fun _ => 0, 0⟩ = .failed f shown ∧
      f.Raised [.unknownVariable] ⟨6, "CALL inner"⟩ "CALL" ∧
      ShutCall nestedDescs ⟨6, "CALL inner"⟩ := by
  constructor
  · have hproblems : (program Run.openingCalls).problems = [] := by decide +kernel
    have hcalls : (program Run.openingCalls).earlyCalls = [] := by decide +kernel
    have hflat : Flat Run.openingCalls := by
      intro opener body closer h
      simp only [Run.openingCalls, Run.openingDesc, Node.Occurs.block_cons_iff,
        Node.Occurs.line_cons_iff, Node.Occurs.not_nil] at h
      simp_all [describedIn, described]
    exact ⟨hproblems, hcalls, hflat, (calls_find_snippets hproblems hcalls).2.2 hflat⟩
  · have hfault : (Run.program 2 Run.crewSetup nestedDescs ⟨fun _ => 0, 0⟩).fault?.map
        (fun f => (f.command, f.line, f.text, f.kind)) =
          some ("CALL", 6, "CALL inner", .unknownVariable) := by
      decide +kernel
    obtain ⟨f, hf, hparts⟩ := Option.map_eq_some_iff.1 hfault
    obtain ⟨shown, hfailed⟩ := Outcome.exists_failed hf
    simp only [Prod.mk.injEq] at hparts
    obtain ⟨hcommand, hline, htext, hkind⟩ := hparts
    have hraised : f.Raised [.unknownVariable] ⟨6, "CALL inner"⟩ "CALL" :=
      ⟨hcommand, hline, htext, by simp [hkind]⟩
    have hkeyword : (⟨6, "CALL inner"⟩ : Line).keyword = "CALL" := by decide +kernel
    have hshut := (calls_find_snippets (by decide +kernel) (by decide +kernel)).2.1 _ _ _ f shown
      ⟨6, "CALL inner"⟩ hfailed (by decide +kernel) (hkeyword.symm ▸ hraised)
    exact ⟨f, shown, hfailed, hraised, hshut⟩

/-- Nothing is found in the program, and yet its call fails: a `DESC` block inside another one is
noted where it stands but not run there. -/
theorem nested_desc_call_fails :
    (program nestedDescs).problems = [] ∧ (program nestedDescs).earlyCalls = [] ∧
      (Run.program 2 Run.crewSetup nestedDescs ⟨fun _ => 0, 0⟩).fault?.map
        (fun f => (f.kind, f.command, f.line)) = some (.unknownVariable, "CALL", 6) := by
  decide +kernel

end ProseScript.Lint
