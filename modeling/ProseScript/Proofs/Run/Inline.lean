import ProseScript.Proofs.Program.Marks
import ProseScript.Proofs.Run.Follow
import ProseScript.Proofs.Run.Snippets

/-!
Calls of a snippet that is described once. Main statement: such a call can be replaced by the body
of the snippet, inside loops too, and every run stays the same but for the line last begun.
-/

namespace ProseScript

namespace Node

/-- The name that a block describes, if it is a `DESC` block with one parameter. -/
def describedBy : BlockKind → Line → List String
  | .desc, opener =>
      match opener.paramWords with
      | [word] => [Text.lower word]
      | _ => []
  | _, _ => []

mutual

/-- The names described in a node, at any depth. -/
def described : Node → List String
  | line _ => []
  | block kind opener body _ => describedBy kind opener ++ describedIn body

/-- The names described in a sequence of nodes, at any depth. -/
def describedIn : List Node → List String
  | [] => []
  | n :: rest => n.described ++ describedIn rest

end

theorem describedIn_append (xs ys : List Node) :
    describedIn (xs ++ ys) = describedIn xs ++ describedIn ys := by
  induction xs with
  | nil => simp [describedIn]
  | cons x xs ih => simp [describedIn, ih]

theorem describedIn_singleton (n : Node) : describedIn [n] = n.described := by
  simp [describedIn]

theorem not_mem_describedIn {d : String} {ns : List Node} :
    d ∉ describedIn ns ↔ ∀ n ∈ ns, d ∉ n.described := by
  induction ns with
  | nil => simp [describedIn]
  | cons n rest ih => simp [describedIn, ih]

end Node

namespace Run

open Node (described describedIn)
open Outcome (Alike)
open State (SameButLine)

/-- A line that calls the snippet of a lower-case name. -/
def Calls (l : Line) (d : String) : Prop :=
  Command.ofLine? l = some .call ∧ ∃ word, l.paramWords = [word] ∧ Text.lower word = d

/-- One call, at any depth of loops, is replaced by the nodes of a body. -/
inductive Inlines (d : String) (body : List Node) : List Node → List Node → Prop
  | here (before after : List Node) {l : Line} (hcall : Calls l d) :
      Inlines d body (before ++ [.line l] ++ after) (before ++ body ++ after)
  | inside (before after : List Node) {opener closer : Line} {ns ns' : List Node}
      (hns : Inlines d body ns ns') :
      Inlines d body (before ++ [.block .loop opener ns closer] ++ after)
        (before ++ [.block .loop opener ns' closer] ++ after)

/-- A later call of a snippet is replaced by its body. Its name is described once, at top level. -/
inductive InlinesCall : Program → Program → Prop
  | intro (front : List Node) {opener closer : Line} {body rest rest' : List Node} {word : String}
      (hword : opener.paramWords = [word])
      (honce : (describedIn (front ++ [.block .desc opener body closer] ++ rest)).count
        (Text.lower word) = 1)
      (hrest : Inlines (Text.lower word) body rest rest') :
      InlinesCall (front ++ [.block .desc opener body closer] ++ rest)
        (front ++ [.block .desc opener body closer] ++ rest')

theorem mem_described {opener closer : Line} {word : String} (h : opener.paramWords = [word])
    (body : List Node) : Text.lower word ∈ described (.block .desc opener body closer) := by
  simp [described, Node.describedBy, h]

/-- What is stored under a name while no other `DESC` block of that name is at hand. -/
structure Holds (d : String) (stored : Option (List Node)) (s : State) : Prop where
  found : s.store.snippets.get? d = stored
  others : ∀ name ns, s.store.snippets.get? name = some ns → d ∉ describedIn ns

namespace Holds

variable {d : String} {stored : Option (List Node)} {s t : State}

theorem congr (hs : Holds d stored s) (h : t.store.snippets = s.store.snippets) :
    Holds d stored t :=
  ⟨h ▸ hs.found, h ▸ hs.others⟩

theorem others_setSnippet (hs : Holds d stored s) {body : List Node} (hbody : d ∉ describedIn body)
    (word name : String) (ns : List Node)
    (h : (s.store.setSnippet word body).snippets.get? name = some ns) : d ∉ describedIn ns := by
  rw [Store.setSnippet, Table.get?_insert] at h
  split at h
  · exact Option.some.inj h ▸ hbody
  · exact hs.others name ns h

theorem initial (d : String) (u : Setup) (c : Chance) : Holds d none (u.initial c) := by
  have hempty : (u.initial c).store.snippets = .empty := rfl
  constructor <;> simp [hempty]

/-- Nothing but a `DESC` block of the name changes what is stored under it. -/
theorem invariant (d : String) (stored : Option (List Node)) :
    Invariant (fun n => d ∉ n.described) (Holds d stored) where
  begun _ _ hs := hs.congr rfl
  drawn _ _ hs := hs.congr rfl
  simple _ _ _ _ _ _ _ h hs := hs.congr (storeSteps_snippets.simple h)
  write _ _ _ _ _ _ h hs := hs.congr (storeSteps_snippets.write h)
  generate _ _ _ _ _ _ h hs := hs.congr (storeSteps_snippets.generate h)
  snippet opener body closer s t hn h hs := by
    obtain ⟨word, hword, rfl⟩ := storeSnippet_eq_ok_iff.1 h
    have hne : d ≠ Text.lower word := fun heq => hn (heq ▸ mem_described hword body)
    have hbody : d ∉ describedIn body := fun hin => hn (by simp [described, hin])
    refine ⟨?_, hs.others_setSnippet hbody word⟩
    rw [← hs.found, Store.setSnippet, Table.get?_insert, if_neg hne]
  loopBody opener body closer hn := by
    refine Node.not_mem_describedIn.1 fun hin => hn ?_
    simp [described, hin]
  calledBody l s body h hs := by
    refine Node.not_mem_describedIn.1 ?_
    obtain ⟨word, -, hfound⟩ := calledBody_eq_ok_iff.1 h
    exact hs.others _ body hfound

theorem of_desc {opener closer : Line} {body : List Node} {word : String} {limit : Nat}
    (hword : opener.paramWords = [word]) (hbody : Text.lower word ∉ describedIn body)
    (h : nodes limit [.block .desc opener body closer] s = .finished t)
    (hs : Holds (Text.lower word) none s) : Holds (Text.lower word) (some body) t := by
  cases limit with
  | zero => simp [nodes] at h
  | succ limit =>
    rw [nodes_singleton] at h
    have hstored := Outcome.ofExcept_eq_finished_iff.1 h
    obtain ⟨word', hword', rfl⟩ := storeSnippet_eq_ok_iff.1 hstored
    obtain rfl : word = word' := by simpa [hword] using hword'
    exact ⟨Table.get?_insert_self _ _ _, hs.others_setSnippet hbody word⟩

end Holds

/-- A call runs the stored body in its place. -/
theorem nodes_call {l : Line} {d : String} {body : List Node} (hcall : Calls l d) {s : State}
    (hs : Holds d (some body) s) (limit : Nat) :
    nodes (limit + 1) [.line l] s = nodes limit body { s with current := some l } := by
  obtain ⟨hcommand, word, hword, rfl⟩ := hcall
  have hidle : l.isIdle = false := Line.isIdle_of_ofLine? hcommand
  have hbody : calledBody l { s with current := some l } = .ok body :=
    calledBody_eq_ok_iff.2 ⟨word, hword, hs.found⟩
  rw [nodes_singleton, node, line, hidle, hcommand]
  simp [hbody]

namespace Follows

variable {l : Line} {d : String} {body : List Node} (hcall : Calls l d)
  (hbody : ∀ n ∈ body, d ∉ n.described)
include hcall hbody

theorem inlined : Follows (Holds d (some body)) (Holds d (some body)) [.line l] body := by
  intro limit s t hst hs
  cases limit with
  | zero => exact .inl rfl
  | succ limit =>
    rw [nodes_call hcall hs]
    have hbegun : SameButLine { s with current := some l } t :=
      (SameButLine.begun s l).symm.trans hst
    refine (approx_nodes (by omega) body hbegun).and_left fun u hu => ?_
    exact (Holds.invariant d _).nodes hbody hu (hs.congr rfl)

-- One limit more is just what the call takes away for its body.
theorem called : Follows (Holds d (some body)) (Holds d (some body)) body [.line l] := by
  intro limit s t hst hs
  have ht : Holds d (some body) t := hs.congr (by rw [hst])
  rw [nodes_call hcall ht]
  have hbegun : s.SameButLine { t with current := some l } := hst.trans (SameButLine.begun t l)
  refine (approx_nodes (by omega) body hbegun).and_left fun u hu => ?_
  exact (Holds.invariant d _).nodes hbody hu hs

end Follows

theorem follows_of_inlines {d : String} {body : List Node} (hbody : d ∉ describedIn body)
    {p q : List Node} (h : Inlines d body p q) (hp : d ∉ describedIn p) :
    Follows (Holds d (some body)) (Holds d (some body)) p q ∧
      Follows (Holds d (some body)) (Holds d (some body)) q p := by
  -- The nodes around the call keep the stored body, as none of them describes the name.
  have hI := Holds.invariant d (some body)
  have hbody' := Node.not_mem_describedIn.1 hbody
  induction h with
  | here before after hcall =>
    simp only [Node.describedIn_append, List.mem_append, not_or] at hp
    have hbefore := Node.not_mem_describedIn.1 hp.1.1
    have hafter := Node.not_mem_describedIn.1 hp.2
    exact ⟨(Follows.inlined hcall hbody').around hI hbefore hafter,
      (Follows.called hcall hbody').around hI hbefore hafter⟩
  | inside before after _ ih =>
    simp only [Node.describedIn_append, Node.describedIn_singleton, described, List.mem_append,
      not_or] at hp
    have hbefore := Node.not_mem_describedIn.1 hp.1.1
    have hafter := Node.not_mem_describedIn.1 hp.2
    obtain ⟨hpq, hqp⟩ := ih hp.1.2.2
    exact ⟨(hpq.loop hI _ _).around hI hbefore hafter, (hqp.loop hI _ _).around hI hbefore hafter⟩

theorem follows_of_inlinesCall {p q : Program} (h : InlinesCall p q) :
    ∃ d body, Follows (Holds d none) (Holds d (some body)) p q ∧
      Follows (Holds d none) (Holds d (some body)) q p := by
  cases h with
  | @intro front opener closer body rest rest' word hword honce hrest =>
    simp only [Node.describedIn_append, Node.describedIn_singleton, described, Node.describedBy,
      hword, List.count_append, List.count_singleton_self] at honce
    -- The block itself describes the name, so nothing else does.
    have hfront : Text.lower word ∉ describedIn front := List.count_eq_zero.1 (by omega)
    have hbody : Text.lower word ∉ describedIn body := List.count_eq_zero.1 (by omega)
    have hlater : Text.lower word ∉ describedIn rest := List.count_eq_zero.1 (by omega)
    have hbefore := Node.not_mem_describedIn.1 hfront
    have hkept : Follows (Holds (Text.lower word) none) _ front front :=
      .refl fun _ _ _ => (Holds.invariant _ none).nodes hbefore
    have hstored : Follows (Holds (Text.lower word) none) _ [.block .desc opener body closer] _ :=
      .refl fun _ _ _ => Holds.of_desc hword hbody
    have hdesc := hkept.append hstored
    obtain ⟨hpq, hqp⟩ := follows_of_inlines hbody hrest hlater
    exact ⟨Text.lower word, body, hdesc.append hpq, hdesc.append hqp⟩

/-- A program and the program with a call replaced by the body of its snippet run alike from every
setup: if one ends under some limit, so does the other, and they end in states that differ at most
in the current line or with the same fault after the same displayed texts. -/
theorem inlined_program_runs_alike {p q : Program} (h : InlinesCall p q) (u : Setup) (c : Chance) :
    ((∃ limit, program limit u p c ≠ .unfinished) ↔ ∃ limit, program limit u q c ≠ .unfinished) ∧
    ∀ limit limit', program limit u p c ≠ .unfinished → program limit' u q c ≠ .unfinished →
      Alike SameButLine (program limit u p c) (program limit' u q c) := by
  obtain ⟨d, body, hpq, hqp⟩ := follows_of_inlinesCall h
  have hinitial : Holds d none (u.initial c) := Holds.initial d u c
  refine ⟨⟨hpq.exists_ended hinitial, hqp.exists_ended hinitial⟩, ?_⟩
  intro limit limit' hp hq
  exact hpq.alike_of_ended hinitial hp hq

def openingSetup : Setup := ⟨.ofEntries [], .ofEntries [], .standard, .standard, "w", "s"⟩

def openingDesc : Node := .block .desc ⟨1, "DESC opening"⟩ [.line ⟨2, "NEWCHAPTER"⟩] ⟨3, "DESCEND"⟩

/-- Calls a snippet twice. -/
def openingCalls : Program := [
  openingDesc,
  .block .loop ⟨4, "LOOP 2"⟩ [.line ⟨5, "CALL Opening"⟩] ⟨6, "LOOPEND"⟩]

def openingCopies : Program := [
  openingDesc,
  .block .loop ⟨4, "LOOP 2"⟩ [.line ⟨2, "NEWCHAPTER"⟩] ⟨6, "LOOPEND"⟩]

theorem inlined_program_runs_alike_opening :
    InlinesCall openingCalls openingCopies ∧
    ∃ s t, program 3 openingSetup openingCalls ⟨fun _ => 0, 0⟩ = .finished s ∧
      program 2 openingSetup openingCopies ⟨fun _ => 0, 0⟩ = .finished t ∧ s.SameButLine t := by
  have hcall : Calls ⟨5, "CALL Opening"⟩ (Text.lower "opening") :=
    ⟨by decide +kernel, "Opening", by decide +kernel, by decide +kernel⟩
  have hinlines : InlinesCall openingCalls openingCopies :=
    .intro [] (by decide +kernel : _ = ["opening"]) (by decide +kernel)
      (.inside [] [] (.here [] [] hcall))
  have hcalls : (program 3 openingSetup openingCalls ⟨fun _ => 0, 0⟩).last?.isSome = true := by
    decide +kernel
  have hcopies : (program 2 openingSetup openingCopies ⟨fun _ => 0, 0⟩).last?.isSome = true := by
    decide +kernel
  obtain ⟨s, hs⟩ := Outcome.exists_finished hcalls
  obtain ⟨t, ht⟩ := Outcome.exists_finished hcopies
  have halike := (inlined_program_runs_alike hinlines openingSetup ⟨fun _ => 0, 0⟩).2 3 2
    (by simp [hs]) (by simp [ht])
  rw [hs, ht] at halike
  cases halike with
  | finished hst => exact ⟨hinlines, s, t, hs, ht, hst⟩

end Run

end ProseScript
