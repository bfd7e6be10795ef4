import ProseScript.Proofs.Run.Arrival
import ProseScript.Proofs.Run.Inline

/-!
Snippets that are ready when a run comes to a place of its program. Main statement: whenever a run
comes to a node, every name described before it is stored, unless its `DESC` block stands in the body
of another one that has been closed.
-/

namespace ProseScript

namespace Node

mutual

/-- The names that are stored once a node is run: a `DESC` block stores its own, and the blocks in its
body wait for a call. -/
def stores : Node → List String
  | line _ => []
  | block .gen _ _ _ => []
  | block .desc opener _ _ => describedBy .desc opener
  | block .loop _ body _ => storesIn body

def storesIn : List Node → List String
  | [] => []
  | n :: rest => n.stores ++ storesIn rest

end

end Node

namespace Run

open Node (describedBy described stores storesIn)

/-- The nodes `ns` stand in the program up to the end of a body, outside `GEN` blocks. The names
`seen` are described before them, at whatever depth, and those of them in `known` outside the bodies
of closed `DESC` blocks. -/
inductive Place (p : Program) : List String → List String → List Node → Prop
  | start : Place p [] [] p
  | after {seen known : List String} {n : Node} {rest : List Node}
      (h : Place p seen known (n :: rest)) : Place p (n.described ++ seen) (n.stores ++ known) rest
  | inLoop {seen known : List String} {opener closer : Line} {body rest : List Node}
      (h : Place p seen known (.block .loop opener body closer :: rest)) : Place p seen known body
  | inDesc {seen known : List String} {opener closer : Line} {body rest : List Node}
      (h : Place p seen known (.block .desc opener body closer :: rest)) :
      Place p (describedBy .desc opener ++ seen) (describedBy .desc opener ++ known) body

theorem ne_zero_of_loopTarget {l : Line} {s : State} {n : Nat} {counting : Counting}
    {chance : Chance} (h : loopTarget l s = .ok (n, counting, chance)) : n ≠ 0 := by
  unfold loopTarget at h
  split at h
  · simp at h
  · split at h
    · simp at h
    · next hn =>
      obtain ⟨rfl, -⟩ := Prod.mk.inj (Except.ok.inj h)
      exact hn

/-- Every one of the names has a stored snippet. -/
def HasStored (known : List String) (s : Store) : Prop := ∀ d ∈ known, s.snippets.contains d = true

theorem HasStored.congr {known : List String} {s t : Store} (hs : HasStored known s)
    (h : t.snippets = s.snippets) : HasStored known t := by
  intro d hd
  rw [h]
  exact hs d hd

/-- Snippets are replaced but never dropped. -/
theorem carried_hasStored (known : List String) :
    Carried fun s t => HasStored known s.store → HasStored known t.store := by
  have hsteps : StoreSteps fun s t => HasStored known s → HasStored known t :=
    { refl := fun _ => id
      trans := fun _ _ _ hst htu => htu ∘ hst
      assign := fun s t name v hv h hs => hs.congr (storeSteps_snippets.assign s t name v hv h)
      regroup := fun _ _ _ _ _ _ hs => hs.congr rfl }
  refine hsteps.carried ?_
  intro s name body hs d hd
  exact (Table.contains_insert _ _ _ _).2 (.inr (hs d hd))

theorem hasStored_nodes {known : List String} {limit : Nat} {ns : List Node} {s t : State}
    (h : nodes limit ns s = .finished t) (hs : HasStored known s.store) :
    HasStored known t.store :=
  ((carried_hasStored known).invariant s).nodes (fun _ _ => trivial) h id hs

/-- The names are stored, and whatever is stored is the body of a block whose own names are stored. -/
structure Ready (p : Program) (known : List String) (s : State) : Prop where
  stored : HasStored known s.store
  bodies : Stocked (fun _ body => ∃ seen known, Place p seen known body ∧ HasStored known s.store) s

namespace Ready

variable {p : Program} {seen known : List String} {s t : State}

theorem initial (p : Program) (u : Setup) (c : Chance) : Ready p [] (u.initial c) where
  stored d hd := by simp at hd
  bodies := .initial _ u c

theorem mono (hs : Ready p known s) {known' : List String} (hsub : known' ⊆ known) :
    Ready p known' s :=
  ⟨fun d hd => hs.stored d (hsub hd), hs.bodies⟩

theorem congr (hs : Ready p known s) (h : t.store.snippets = s.store.snippets) :
    Ready p known t where
  stored := hs.stored.congr h
  bodies name body hbody := by
    rw [h] at hbody
    obtain ⟨seen, known, hplace, hstored⟩ := hs.bodies name body hbody
    exact ⟨seen, known, hplace, hstored.congr h⟩

theorem begun (hs : Ready p known s) (l : Line) : Ready p known { s with current := some l } :=
  hs.congr rfl

theorem of_call (hs : Ready p known s) {l : Line} {body : List Node}
    (h : calledBody l s = .ok body) :
    ∃ seen known, Place p seen known body ∧ Ready p known s := by
  obtain ⟨word, -, seen, known, hplace, hstored⟩ := hs.bodies.of_call h
  exact ⟨seen, known, hplace, hstored, hs.bodies⟩

theorem storeSnippet {opener closer : Line} {body rest : List Node}
    (hplace : Place p seen known (.block .desc opener body closer :: rest))
    (h : storeSnippet opener body s = .ok t) (hs : Ready p known s) :
    Ready p (describedBy .desc opener ++ known) t := by
  obtain ⟨word, hword, rfl⟩ := storeSnippet_eq_ok_iff.1 h
  have hkept (names : List String) (hnames : HasStored names s.store) :
      HasStored names (s.store.setSnippet word body) := by
    intro d hd
    exact (Table.contains_insert _ _ _ _).2 (.inr (hnames d hd))
  have hstored : HasStored (describedBy .desc opener ++ known) (s.store.setSnippet word body) := by
    intro d hd
    rcases List.mem_append.1 hd with hd | hd
    · have heq : d = Text.lower word := by simpa [describedBy, hword] using hd
      rw [heq]
      exact Table.contains_insert_self _ _ _
    · exact hkept known hs.stored d hd
  have hbodies : Stocked (fun _ ns => ∃ seen known, Place p seen known ns ∧
      HasStored known (s.store.setSnippet word body)) s := by
    intro name ns hns
    obtain ⟨seen, known, hns, hknown⟩ := hs.bodies name ns hns
    exact ⟨seen, known, hns, hkept known hknown⟩
  exact ⟨hstored, hbodies.setSnippet ⟨_, _, hplace.inDesc, hstored⟩⟩

/-- What a sequence stores is there once it is run. -/
def StoresAll (p : Program) (limit : Nat) : Prop :=
  ∀ seen known ns s t, Place p seen known ns → nodes limit ns s = .finished t → Ready p known s →
    Ready p (storesIn ns ++ known) t

section Node

variable {limit : Nat} (hlimit : StoresAll p limit)
include hlimit

theorem line {l : Line} (h : line (Run.nodes limit) limit l s = .finished t)
    (hs : Ready p known s) : Ready p known t := by
  unfold Run.line at h
  split at h
  · exact Outcome.finished.inj h ▸ hs
  split at h
  · simp at h
  · exact hs.congr (storeSteps_snippets.write h)
  · split at h
    · next ns hcall =>
      obtain ⟨_, _, hplace, hbody⟩ := hs.of_call hcall
      have hrun := hlimit _ _ ns s t hplace h hbody
      exact ⟨hasStored_nodes h hs.stored, hrun.bodies⟩
    · simp at h
  · exact hs.congr (storeSteps_snippets.simple (Outcome.checked_eq_finished_iff.1 h).2)

theorem pass {opener closer : Line} {body rest : List Node}
    (hplace : Place p seen known (.block .loop opener body closer :: rest))
    (h : Run.nodes limit body s = .finished t) (hs : Ready p known s) :
    Ready p (storesIn body ++ known) t :=
  hlimit _ _ body s t hplace.inLoop h hs

/-- A loop makes a pass at least, as its amount is not zero. -/
theorem loop {opener closer : Line} {body rest : List Node}
    (hplace : Place p seen known (.block .loop opener body closer :: rest))
    (h : loop (Run.nodes limit body) limit opener s = .finished t) (hs : Ready p known s) :
    Ready p (storesIn body ++ known) t := by
  rcases cases_of_loop (Run.nodes limit body) limit opener s with
    ⟨f, -, hf⟩ | ⟨n, counting, chance, htarget, ⟨-, hcrash⟩ | ⟨start, stop, hspan, hrun⟩⟩
  · simp [hf] at h
  · simp [hcrash] at h
  · have hn : 0 < n := Nat.pos_of_ne_zero (ne_zero_of_loopTarget htarget)
    have hbelow : start < stop := Counting.lt_of_span? hn hspan
    obtain ⟨u, k, hfirst, hothers⟩ := Outcome.exists_first_of_repeated hbelow (hrun.symm.trans h)
    have hdrawn : Ready p known { s with chance } := hs.congr rfl
    refine Kept.times (I := Ready p (storesIn body ++ known)) ?_ hothers
      (pass hlimit hplace hfirst hdrawn)
    intro s t hrun hs
    exact pass hlimit hplace hrun (hs.mono (List.subset_append_right _ _))

theorem node {n : Node} {rest : List Node} (hplace : Place p seen known (n :: rest))
    (h : node (Run.nodes limit) limit n s = .finished t) (hs : Ready p known s) :
    Ready p (n.stores ++ known) t := by
  cases n with
  | line l =>
    rw [stores]
    exact line hlimit h (hs.begun l)
  | block kind opener body closer =>
    cases kind with
    | gen =>
      have hgen := (Outcome.checked_eq_finished_iff.1 h).2
      rw [stores]
      exact (hs.begun opener).congr (storeSteps_snippets.generate hgen)
    | desc =>
      have hdesc := Outcome.ofExcept_eq_finished_iff.1 h
      rw [stores]
      exact storeSnippet hplace hdesc (hs.begun opener)
    | loop =>
      rw [stores]
      exact loop hlimit hplace h (hs.begun opener)

end Node

theorem nodes (p : Program) (limit : Nat) : StoresAll p limit := by
  induction limit with
  | zero => simp [StoresAll, Run.nodes]
  | succ limit ihlimit =>
    intro seen known ns s t hplace h hs
    rw [Run.nodes] at h
    induction ns generalizing seen known s with
    | nil => simpa [storesIn, ← Outcome.finished.inj h] using hs
    | cons n rest ih =>
      rw [inOrder_cons] at h
      obtain ⟨u, hu, hrest⟩ := Outcome.bind_eq_finished_iff.1 h
      have hnext := node ihlimit hplace hu hs
      have hlast := ih _ _ u hplace.after hrest hnext
      refine hlast.mono ?_
      intro d hd
      simp only [storesIn, List.mem_append] at hd ⊢
      tauto

/-- Where a run comes to, the names described before are stored. -/
theorem comes {limit : Nat} {ns : List Node} {m : Node} (h : Comes limit ns s m t)
    (hplace : Place p seen known ns) (hs : Ready p known s) :
    ∃ seen known rest, Place p seen known (m :: rest) ∧ HasStored known t.store := by
  induction h generalizing seen known with
  | here limit n rest s => exact ⟨seen, known, rest, hplace, hs.stored⟩
  | next hn _ ih => exact ih hplace.after (node (nodes p _) hplace hn hs)
  | @pass limit _ _ body _ _ _ _ _ _ _ _ _ _ hpasses _ ih =>
    have hpass (s t : State) (hrun : Run.nodes limit body s = .finished t) (hs : Ready p known s) :
        Ready p known t :=
      (pass (nodes p _) hplace hrun hs).mono (List.subset_append_right _ _)
    exact ih hplace.inLoop (Kept.times hpass hpasses (hs.congr rfl))
  | @call _ l _ _ _ _ _ _ hcall _ ih =>
    obtain ⟨_, _, hbody, hready⟩ := (hs.begun l).of_call hcall
    exact ih hbody hready

end Ready

end Run

end ProseScript
