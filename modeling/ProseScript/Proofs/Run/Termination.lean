import ProseScript.Proofs.Run.Arrival
import ProseScript.Proofs.Run.Follow
import ProseScript.Proofs.Run.Snippets
import ProseScript.Proofs.Run.StoreInvariant

/-!
Programs that end. No amount of theirs counts words, and names can be ranked so that a snippet only
calls names below its own. Main statement: such a program ends under a limit that depends on nothing
but the program, whatever it starts from. What it can end with beside a state and a fault is a number
that is too large.
-/

namespace ProseScript

namespace Outcome

variable {σ τ : Type}

theorem bind_ne_unfinished {o : Outcome σ} {f : σ → Outcome τ} (h : o ≠ .unfinished)
    (hf : ∀ s, o = .finished s → f s ≠ .unfinished) : o.bind f ≠ .unfinished := by
  cases o with
  | finished s => exact hf s rfl
  | failed fault shown => simp [bind]
  | crashed crash shown => simp [bind]
  | unfinished => exact absurd rfl h

theorem checked_ne_unfinished (crash : Option Crash) (shown : Array String) (x : Except Fault σ) :
    checked crash shown x ≠ .unfinished := by
  cases crash <;> cases x <;> simp [checked, ofExcept]

/-- Steps that end, and keep what makes them end, end when they are taken in a row. -/
theorem times_ne_unfinished {I : σ → Prop} {step : σ → Outcome σ}
    (hends : ∀ s, I s → step s ≠ .unfinished) (hkeeps : ∀ s t, step s = .finished t → I s → I t)
    (n : Nat) {s : σ} (hs : I s) : times step n s ≠ .unfinished := by
  induction n generalizing s with
  | zero => simp [times]
  | succ n ih =>
    rw [times_succ]
    apply bind_ne_unfinished (hends s hs)
    intro t ht
    exact ih (hkeeps s t ht hs)

end Outcome

/-- A parameter that is given as an amount of words. -/
def AsksForWords (param : Option String) : Prop :=
  (param.bind Amount.ofText?).map Amount.counting = some .words

instance (param : Option String) : Decidable (AsksForWords param) :=
  inferInstanceAs (Decidable (_ = _))

namespace Node

def calledBy (l : Line) : List String :=
  match Command.ofLine? l, l.paramWords with
  | some .call, [word] => [Text.lower word]
  | _, _ => []

mutual

/-- The names that a node calls. What stands in a `DESC` block is called by its snippet only. -/
def called : Node → List String
  | line l => calledBy l
  | block .desc _ _ _ => []
  | block _ _ body _ => calledIn body

def calledIn : List Node → List String
  | [] => []
  | n :: rest => n.called ++ calledIn rest

end

theorem mem_calledIn {m : String} {n : Node} {ns : List Node} (hn : n ∈ ns) (hm : m ∈ n.called) :
    m ∈ calledIn ns := by
  induction ns with
  | nil => simp at hn
  | cons n' rest ih =>
    rw [calledIn, List.mem_append]
    rcases List.mem_cons.1 hn with rfl | hn
    · exact .inl hm
    · exact .inr (ih hn)

end Node

namespace Run

open Node (Occurs calledIn depthOf)

/-- No `LOOP` and no `WRITE` line asks for words, and the snippets of lower rank are the only ones
that a snippet calls. -/
structure RankSafe (rank : String → Nat) (p : Program) : Prop where
  loops : ∀ opener body closer, Occurs (.block .loop opener body closer) p →
    ¬ AsksForWords opener.paramWords[0]?
  writes : ∀ l, Occurs (.line l) p → Command.ofLine? l = some .write →
    ¬ AsksForWords l.paramWords[2]?
  calls : ∀ opener body closer word, Occurs (.block .desc opener body closer) p →
    opener.paramWords = [word] → ∀ m ∈ calledIn body, rank m < rank (Text.lower word)

section Amounts

variable {l : Line} {s : State}

theorem counting_of_loopTarget (hwords : ¬ AsksForWords l.paramWords[0]?) {n : Nat}
    {counting : Counting} {chance : Chance} (h : loopTarget l s = .ok (n, counting, chance)) :
    counting = .cycles := by
  have hamount : ∃ n chance, loopAmount l s = .ok (n, counting, chance) := by
    unfold loopTarget at h
    split at h
    · simp at h
    · next n' counting' chance' hamount =>
      split at h
      · simp at h
      · obtain ⟨-, rfl, -⟩ := by simpa using h
        exact ⟨n', chance', hamount⟩
  obtain ⟨n, chance, hamount⟩ := hamount
  unfold loopAmount at hamount
  split at hamount
  · simp_all
  · next param hparam =>
    split at hamount
    · next amount htext =>
      have hcounting : amount.counting = counting := by simp_all
      cases counting with
      | cycles => rfl
      | words => exact absurd (by simp [AsksForWords, hparam, htext, hcounting]) hwords
    · obtain ⟨_, -, hn⟩ := Fault.map_eq_ok_iff.1 hamount
      simp_all
  · simp at hamount

theorem counting_of_writeAmount {c c' : Chance} {param : Option String} (hwords : ¬ AsksForWords param)
    {n : Nat} {counting : Counting} (h : writeAmount l c param = .ok (n, counting, c')) :
    counting = .cycles := by
  unfold writeAmount at h
  split at h
  · simp_all
  · next text =>
    split at h
    · next amount htext =>
      have hcounting : amount.counting = counting := by simp_all
      cases counting with
      | cycles => rfl
      | words => exact absurd (by simp [AsksForWords, htext, hcounting]) hwords
    · simp at h

theorem counting_of_writePlan (hwords : ¬ AsksForWords l.paramWords[2]?) {plan : WritePlan}
    {chance : Chance} (h : writePlan l s = .ok (plan, chance)) : plan.counting = .cycles := by
  unfold writePlan at h
  split at h
  · next sentencesWord wordsWord options hparams =>
    split at h
    · simp at h
    · obtain ⟨words, -, h⟩ := Fault.bind_eq_ok_iff.1 h
      obtain ⟨sentences, -, h⟩ := Fault.bind_eq_ok_iff.1 h
      obtain ⟨⟨amount, counting, chance'⟩, hamount, h⟩ := Fault.bind_eq_ok_iff.1 h
      obtain ⟨ordered, -, h⟩ := Fault.bind_eq_ok_iff.1 h
      have hthird : l.paramWords[2]? = options[0]? := by simp [hparams]
      have hcycles := counting_of_writeAmount (hthird ▸ hwords) hamount
      obtain ⟨hplan, -⟩ := Prod.mk.inj (Except.ok.inj h)
      rw [← hplan]
      exact hcycles
  · simp at h

end Amounts

theorem writeOne_ne_unfinished (l : Line) (plan : WritePlan) (x : Nat × State) :
    writeOne l plan x ≠ .unfinished := by
  simp only [writeOne]
  split <;> simp

theorem write_ne_unfinished {l : Line} (hwords : ¬ AsksForWords l.paramWords[2]?) (limit : Nat)
    (s : State) : write limit l s ≠ .unfinished := by
  rcases cases_of_write limit l s with
    ⟨f, -, hf⟩ | ⟨plan, chance, hplan, ⟨-, hcrash⟩ | ⟨start, stop, -, hrun⟩⟩
  · simp [hf]
  · simp [hcrash]
  · rw [hrun, counting_of_writePlan hwords hplan]
    apply Outcome.bind_ne_unfinished
    · exact Outcome.times_ne_unfinished (I := fun _ => True)
        (fun x _ => writeOne_ne_unfinished l plan x) (fun _ _ _ _ => trivial) _ trivial
    · simp

theorem loop_ne_unfinished {I : State → Prop} {pass : State → Outcome State}
    (hends : ∀ s, I s → pass s ≠ .unfinished) (hkeeps : ∀ s t, pass s = .finished t → I s → I t)
    {opener : Line} (hwords : ¬ AsksForWords opener.paramWords[0]?) (limit : Nat) {s : State}
    (hs : ∀ chance, I { s with chance }) : loop pass limit opener s ≠ .unfinished := by
  rcases cases_of_loop pass limit opener s with
    ⟨f, -, hf⟩ | ⟨n, counting, chance, htarget, ⟨-, hcrash⟩ | ⟨start, stop, -, hrun⟩⟩
  · simp [hf]
  · simp [hcrash]
  · rw [hrun, counting_of_loopTarget hwords htarget]
    exact Outcome.times_ne_unfinished hends hkeeps _ (hs chance)

theorem inOrder_ne_unfinished {I : State → Prop} {step : Node → State → Outcome State}
    {ns : List Node} (hends : ∀ n ∈ ns, ∀ s, I s → step n s ≠ .unfinished)
    (hkeeps : ∀ n ∈ ns, ∀ s t, step n s = .finished t → I s → I t) {s : State} (hs : I s) :
    inOrder step ns s ≠ .unfinished := by
  induction ns generalizing s with
  | nil => simp [inOrder]
  | cons n rest ih =>
    rw [inOrder_cons]
    apply Outcome.bind_ne_unfinished (hends n (by simp) s hs)
    intro t ht
    apply ih
    · intro m hm
      exact hends m (by simp [hm])
    · intro m hm
      exact hkeeps m (by simp [hm])
    · exact hkeeps n (by simp) s t ht hs

theorem mem_calledBy {l : Line} {word : String} (hcall : Command.ofLine? l = some .call)
    (hword : l.paramWords = [word]) : Text.lower word ∈ Node.calledBy l := by
  simp [Node.calledBy, hcall, hword]

namespace RankSafe

variable {rank : String → Nat} {p : Program} (h : RankSafe rank p)
include h

theorem line_ne_unfinished {body : List Node → State → Outcome State} {limit : Nat} {l : Line}
    (hl : Occurs (.line l) p) {s : State} (hs : Supplied p s)
    (hbody : ∀ name ∈ Node.calledBy l, ∀ ns, Describes p name ns → body ns s ≠ .unfinished) :
    line body limit l s ≠ .unfinished := by
  unfold line
  split
  · simp
  split
  · simp
  · next hwrite => exact write_ne_unfinished (h.writes l hl hwrite) limit s
  · next hcall =>
    split
    · next ns hns =>
      obtain ⟨word, hword, hdescribes⟩ := hs.describes_of_call hns
      exact hbody _ (mem_calledBy hcall hword) ns hdescribes
    · simp
  · exact Outcome.checked_ne_unfinished _ _ _

/-- Below rank `r` at most `r` calls stand one inside the other, and each runs a body that is less
deep than the program. -/
theorem nodes_ne_unfinished {limit r : Nat} {ns : List Node} (hns : ∀ n ∈ ns, Occurs n p)
    (hr : ∀ m ∈ calledIn ns, rank m < r) (hlimit : r * depthOf p + depthOf ns < limit) {s : State}
    (hs : Supplied p s) : nodes limit ns s ≠ .unfinished := by
  have hI := Supplied.invariant p
  induction limit generalizing r ns s with
  | zero => omega
  | succ limit ih =>
    apply inOrder_ne_unfinished (I := Supplied p)
    · intro n hn s hs
      have hocc := hns n hn
      cases n with
      | line l =>
        apply h.line_ne_unfinished hocc (hI.begun s l hs)
        intro name hname body hdescribes
        obtain ⟨opener, closer, word, hblock, hword, rfl⟩ := hdescribes
        have hrank : rank (Text.lower word) + 1 ≤ r := hr _ (Node.mem_calledIn hn hname)
        have hdepth : depthOf body + 1 ≤ depthOf p := hblock.depth_le
        have hmul := Nat.mul_le_mul_right (depthOf p) hrank
        rw [Nat.add_mul, Nat.one_mul] at hmul
        have henough : rank (Text.lower word) * depthOf p + depthOf body < limit := by omega
        exact ih (fun m hm => hblock.of_body hm) (h.calls opener body closer word hblock hword)
          henough (hI.begun s l hs)
      | block kind opener body closer =>
        have hdepth : depthOf body + 1 ≤ depthOf ns := Node.depth_le_of_mem hn
        cases kind with
        | gen => exact Outcome.checked_ne_unfinished _ _ _
        | desc => simp only [node]; cases storeSnippet opener body _ <;> simp [Outcome.ofExcept]
        | loop =>
          have hbody : ∀ m ∈ body, Occurs m p := fun m hm => hocc.of_body hm
          apply loop_ne_unfinished (I := Supplied p)
          · intro s hs
            refine ih (r := r) hbody ?_ (by omega) hs
            intro m hm
            exact hr m (Node.mem_calledIn hn (by simpa [Node.called] using hm))
          · intro s t
            exact hI.nodes hbody
          · exact h.loops opener body closer hocc
          · intro chance
            exact hI.drawn _ chance (hI.begun s opener hs)
    · intro n hn s t
      exact hI.node (fun _ _ _ hns => hI.nodes hns) (hns n hn)
    · exact hs

/-- Without amounts of words no target is out of reach. -/
theorem bursts_of_crashesItself {n : Node} (hn : Occurs n p) {s : State} {c : Crash}
    (hself : CrashesItself n s c) : Bursts n s c := by
  cases hself with
  | bursts hbursts => exact hbursts
  | write hl hplan hspan =>
    rw [counting_of_writePlan (h.writes _ hn hl) hplan] at hspan
    simp at hspan
  | loop htarget hspan =>
    rw [counting_of_loopTarget (h.loops _ _ _ hn) htarget] at hspan
    simp at hspan

theorem exists_bursts_of_crashed {limit : Nat} {u : Setup} {c : Chance} {crash : Crash}
    {shown : Array String} (hrun : program limit u p c = .crashed crash shown) :
    ∃ n t, Comes limit p (u.initial c) n t ∧ Occurs n p ∧
      Bursts n { t with current := some n.firstLine } crash := by
  obtain ⟨n, t, hcomes, hself⟩ := exists_comes_of_crashed hrun
  obtain ⟨hn, -⟩ := (Supplied.invariant p).comes hcomes (fun _ hn => .here hn) (.initial p u c)
  exact ⟨n, t, hcomes, hn, h.bursts_of_crashesItself hn hself⟩

end RankSafe

theorem exists_rank_bound (rank : String → Nat) (names : List String) :
    ∃ r, ∀ m ∈ names, rank m < r := by
  induction names with
  | nil => exact ⟨0, by simp⟩
  | cons name rest ih =>
    obtain ⟨r, hr⟩ := ih
    refine ⟨max r (rank name + 1), ?_⟩
    intro m hm
    rcases List.mem_cons.1 hm with rfl | hm
    · omega
    · have hlow := hr m hm
      omega

/-- A program without amounts of words whose calls go down in rank ends: from some limit on every
run of it, whatever its setup and its chance, finishes or fails, or it crashes where it comes to a
node of the program with a number that is too large. -/
theorem rank_safe_program_ends {rank : String → Nat} {p : Program} (h : RankSafe rank p) :
    ∃ enough, ∀ limit, enough ≤ limit → ∀ (u : Setup) (c : Chance),
      (∃ t, program limit u p c = .finished t) ∨
      (∃ fault shown, program limit u p c = .failed fault shown) ∨
      ∃ crash shown n t, program limit u p c = .crashed crash shown ∧
        Comes limit p (u.initial c) n t ∧ Occurs n p ∧
        Bursts n { t with current := some n.firstLine } crash := by
  obtain ⟨r, hr⟩ := exists_rank_bound rank (calledIn p)
  refine ⟨r * depthOf p + depthOf p + 1, ?_⟩
  intro limit hlimit u c
  have hends : program limit u p c ≠ .unfinished :=
    h.nodes_ne_unfinished (fun _ hn => .here hn) hr (by omega) (.initial p u c)
  cases hrun : program limit u p c with
  | finished t => exact .inl ⟨t, rfl⟩
  | failed fault shown => exact .inr (.inl ⟨fault, shown, rfl⟩)
  | crashed crash shown =>
    obtain ⟨n, t, hcomes, hn, hbursts⟩ := h.exists_bursts_of_crashed hrun
    exact .inr (.inr ⟨crash, shown, n, t, rfl, hcomes, hn, hbursts⟩)
  | unfinished => exact absurd hrun hends

/-- A snippet that calls another one in a loop. -/
def verses : Program := [
  .block .desc ⟨1, "DESC refrain"⟩ [.line ⟨2, "NEWLINE"⟩] ⟨3, "DESCEND"⟩,
  .block .desc ⟨4, "DESC verse"⟩
    [.block .loop ⟨5, "LOOP 2"⟩ [.line ⟨6, "CALL Refrain"⟩] ⟨7, "LOOPEND"⟩] ⟨8, "DESCEND"⟩,
  .line ⟨9, "CALL verse"⟩]

def verseRank (name : String) : Nat := if name = "verse" then 1 else 0

theorem rank_safe_program_ends_verses :
    RankSafe verseRank verses ∧
    ∃ enough, ∀ limit, enough ≤ limit → ∀ (u : Setup) (c : Chance),
      (∃ t, program limit u verses c = .finished t) ∨
      ∃ fault shown, program limit u verses c = .failed fault shown := by
  have hlines {l : Line} (hocc : Occurs (.line l) verses) :
      l = ⟨2, "NEWLINE"⟩ ∨ l = ⟨6, "CALL Refrain"⟩ ∨ l = ⟨9, "CALL verse"⟩ := by
    simpa [verses] using hocc
  have hsafe : RankSafe verseRank verses := by
    constructor
    · intro opener body closer hocc
      obtain ⟨rfl, -⟩ : opener = ⟨5, "LOOP 2"⟩ ∧ _ := by simpa [verses] using hocc
      decide +kernel
    · intro l hocc hwrite
      have hnot : Command.ofLine? l ≠ some .write := by
        rcases hlines hocc with rfl | rfl | rfl <;> decide +kernel
      exact absurd hwrite hnot
    · intro opener body closer word hocc hword m hm
      simp only [verses, Occurs.block_cons_iff, Occurs.line_cons_iff, Occurs.not_nil,
        Node.block.injEq, reduceCtorEq, false_and, true_and, or_false, false_or] at hocc
      -- The first block calls nothing, the second one only the first.
      rcases hocc with ⟨rfl, rfl, -⟩ | ⟨rfl, rfl, -⟩
      · have hnone : calledIn [.line ⟨2, "NEWLINE"⟩] = [] := by decide +kernel
        simp [hnone] at hm
      · have hverse : (Line.mk 4 "DESC verse").paramWords = ["verse"] := by decide +kernel
        have hrefrain : calledIn [.block .loop ⟨5, "LOOP 2"⟩ [.line ⟨6, "CALL Refrain"⟩]
            ⟨7, "LOOPEND"⟩] = ["refrain"] := by
          decide +kernel
        obtain rfl : "verse" = word := by simpa [hverse] using hword
        obtain rfl : m = "refrain" := by simpa [hrefrain] using hm
        decide +kernel
  obtain ⟨enough, hends⟩ := rank_safe_program_ends hsafe
  refine ⟨hsafe, enough, ?_⟩
  intro limit hlimit u c
  rcases hends limit hlimit u c with
    hfinished | hfailed | ⟨crash, shown, n, t, -, -, hocc, hbursts⟩
  · exact .inl hfinished
  · exact .inr hfailed
  · -- No node of the program has a number that could be too large.
    cases hbursts with
    | chapter hl => rcases hlines hocc with rfl | rfl | rfl <;> exact absurd hl (by decide +kernel)
    | pointer hl => rcases hlines hocc with rfl | rfl | rfl <;> exact absurd hl (by decide +kernel)
    | members => simp [verses] at hocc

/-- Makes more members than there is room for. -/
def crowded : Program := [.block .gen crowdOpener [] ⟨2, "GENEND"⟩]

theorem rank_safe_program_crashes :
    RankSafe (fun _ => 0) crowded ∧ ¬ ∃ enough, ∀ limit, enough ≤ limit →
      ∀ (u : Setup) (c : Chance), (∃ t, program limit u crowded c = .finished t) ∨
        ∃ fault shown, program limit u crowded c = .failed fault shown := by
  have hsafe : RankSafe (fun _ => 0) crowded := by
    constructor <;> simp [crowded]
  refine ⟨hsafe, ?_⟩
  rintro ⟨enough, hends⟩
  have hcrash : program (enough + 1) crewSetup crowded ⟨fun _ => 0, 0⟩ = .crashed .capacity #[] := by
    rw [program, crowded, nodes_singleton]
    exact Bursts.node_eq (.members (overfull_crowdOpener _)) _ _
  rcases hends (enough + 1) (by omega) crewSetup ⟨fun _ => 0, 0⟩ with ⟨t, ht⟩ | ⟨f, shown, hf⟩
  · simp [hcrash] at ht
  · simp [hcrash] at hf

end Run

end ProseScript
