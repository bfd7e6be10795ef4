import Mathlib.Data.Set.Function
import ProseScript.Program.Nesting
import ProseScript.Proofs.Program.Marks

/-!
Nesting and flattening undo each other. While lines are nested, the outermost nodes and the open
blocks hold exactly the lines read so far; this is the invariant behind both directions.
-/

namespace ProseScript.Program

/-- Leaves neither open nor close a block, and every block stands between an opener of its own kind
and a closer. -/
inductive WellFormed : Program → Prop
  | nil : WellFormed []
  | line {l : Line} {rest : List Node} (hopen : BlockKind.ofOpener? l = none)
      (hclose : l.isCloser = false) (hrest : WellFormed rest) : WellFormed (.line l :: rest)
  | block {kind : BlockKind} {opener closer : Line} {body rest : List Node}
      (hopen : BlockKind.ofOpener? opener = some kind) (hbody : WellFormed body)
      (hclose : closer.isCloser = true) (hrest : WellFormed rest) :
      WellFormed (.block kind opener body closer :: rest)

theorem WellFormed.append {xs ys : List Node} (hx : WellFormed xs) (hy : WellFormed ys) :
    WellFormed (xs ++ ys) := by
  induction hx with
  | nil => exact hy
  | line hopen hclose _ ih => exact .line hopen hclose ih
  | block hopen hbody hclose _ _ ih => exact .block hopen hbody hclose ih

section Steps

variable {root : List Node} {stack outer : List OpenBlock} {b : OpenBlock} {l : Line}
  {rest : List Line}

theorem nest_opener {kind : BlockKind} (h : BlockKind.ofOpener? l = some kind) :
    nest root stack (l :: rest) = nest root (⟨kind, l, []⟩ :: stack) rest := by
  simp [nest, h]

theorem nest_leaf (hopen : BlockKind.ofOpener? l = none) (hclose : l.isCloser = false) :
    nest root stack (l :: rest) =
      nest (attach (.line l) root stack).1 (attach (.line l) root stack).2 rest := by
  simp [nest, hopen, hclose]

theorem nest_closer (h : l.isCloser = true) :
    nest root (b :: outer) (l :: rest) =
      nest (attach (.block b.kind b.opener b.body.reverse l) root outer).1
        (attach (.block b.kind b.opener b.body.reverse l) root outer).2 rest := by
  simp [nest, Line.ofOpener?_of_isCloser h, h]

theorem nest_closer_outermost (h : l.isCloser = true) :
    nest root [] (l :: rest) = .error (unmatchedCloser l) := by
  simp [nest, Line.ofOpener?_of_isCloser h, h]

end Steps

/-- The lines behind the outermost nodes `root` and the open blocks of a stack, in order. -/
def linesBehind (root : List Node) : List OpenBlock → List Line
  | [] => Node.linesOf root.reverse
  | b :: outer => linesBehind root outer ++ b.opener :: Node.linesOf b.body.reverse

/-- The lines `read` have led to the outermost nodes `root` and the open blocks `stack`. -/
structure Reading (read : List Line) (root : List Node) (stack : List OpenBlock) : Prop where
  lines : linesBehind root stack = read
  root : WellFormed root.reverse
  marks : ∀ b ∈ stack, BlockKind.ofOpener? b.opener = some b.kind
  bodies : ∀ b ∈ stack, WellFormed b.body.reverse

namespace Reading

variable {read : List Line} {root : List Node} {stack : List OpenBlock}

theorem start : Reading [] [] [] := ⟨rfl, .nil, by simp, by simp⟩

theorem open_block (h : Reading read root stack) {l : Line} {kind : BlockKind}
    (hopen : BlockKind.ofOpener? l = some kind) :
    Reading (read ++ [l]) root (⟨kind, l, []⟩ :: stack) where
  lines := by simp [linesBehind, h.lines, Node.linesOf]
  root := h.root
  marks := by simpa [hopen] using h.marks
  bodies := by simpa [WellFormed.nil] using h.bodies

/-- A finished node brings its own lines to the innermost open block. -/
theorem attach (h : Reading read root stack) {n : Node} (hn : WellFormed [n]) :
    Reading (read ++ n.lines) (attach n root stack).1 (attach n root stack).2 := by
  have hlines := h.lines
  cases stack with
  | nil =>
    refine ⟨?_, ?_, by simp [Program.attach], by simp [Program.attach]⟩
    · simpa [Program.attach, linesBehind, Node.linesOf] using hlines
    · simpa [Program.attach] using h.root.append hn
  | cons b outer =>
    have hbody := h.bodies b (by simp)
    refine ⟨?_, h.root, ?_, ?_⟩
    · rw [← hlines]
      simp [Program.attach, linesBehind, Node.linesOf]
    · simpa [Program.attach] using h.marks
    · intro c hc
      rcases List.mem_cons.1 hc with rfl | hc
      · simpa using hbody.append hn
      · exact h.bodies c (by simp [hc])

/-- A closer turns the innermost open block into a finished node. -/
theorem close_block {b : OpenBlock} {outer : List OpenBlock} (h : Reading read root (b :: outer))
    {l : Line} (hclose : l.isCloser = true) :
    Reading (read ++ [l]) (Program.attach (.block b.kind b.opener b.body.reverse l) root outer).1
      (Program.attach (.block b.kind b.opener b.body.reverse l) root outer).2 := by
  have hb : b ∈ b :: outer := by simp
  have houter : Reading (linesBehind root outer) root outer :=
    ⟨rfl, h.root, fun c hc => h.marks c (by simp [hc]), fun c hc => h.bodies c (by simp [hc])⟩
  have hblock : WellFormed [.block b.kind b.opener b.body.reverse l] :=
    .block (h.marks b hb) (h.bodies b hb) hclose .nil
  have hread : linesBehind root outer ++
      (Node.block b.kind b.opener b.body.reverse l).lines = read ++ [l] := by
    rw [← h.lines]
    simp [linesBehind, Node.lines]
  exact hread ▸ houter.attach hblock

/-- Nesting further lines ends in one of three ways: a tree of all lines, a closer met while no
block is open, or a block left open. -/
theorem outcome (h : Reading read root stack) (rest : List Line) :
    (∃ p, nest root stack rest = .ok p ∧ WellFormed p ∧ Program.lines p = read ++ rest) ∨
    (∃ before l after root', read ++ rest = before ++ l :: after ∧ Reading before root' [] ∧
      l.isCloser = true ∧ nest root stack rest = .error (unmatchedCloser l)) ∨
    ∃ root' b outer, Reading (read ++ rest) root' (b :: outer) ∧
      nest root stack rest = .error (unclosedBlock b.opener (outer.length + 1)) := by
  induction rest generalizing read root stack with
  | nil =>
    rw [List.append_nil]
    cases stack with
    | nil => exact .inl ⟨root.reverse, rfl, h.root, h.lines⟩
    | cons b outer => exact .inr (.inr ⟨root, b, outer, h, rfl⟩)
  | cons l rest ih =>
    have hassoc : read ++ l :: rest = read ++ [l] ++ rest := by simp
    cases hopen : BlockKind.ofOpener? l with
    | some kind =>
      rw [hassoc, nest_opener hopen]
      exact ih (h.open_block hopen)
    | none =>
      cases hclose : l.isCloser with
      | false =>
        rw [hassoc, nest_leaf hopen hclose]
        exact ih (h.attach (.line hopen hclose .nil))
      | true =>
        cases stack with
        | nil => exact .inr (.inl ⟨read, l, rest, root, rfl, h, hclose, nest_closer_outermost hclose⟩)
        | cons b outer =>
          rw [hassoc, nest_closer hclose]
          exact ih (h.close_block hclose)

end Reading

theorem wellFormed_of_ofLines {ls : List Line} {p : Program} (h : ofLines ls = .ok p) :
    WellFormed p ∧ lines p = ls := by
  rcases Reading.start.outcome ls with ⟨q, hq, hwell, hlines⟩ | ⟨_, l, _, _, _, _, _, herr⟩ |
    ⟨_, b, outer, _, herr⟩
  · have hqp : q = p := by
      rw [ofLines, hq] at h
      exact Except.ok.inj h
    exact hqp ▸ ⟨hwell, hlines⟩
  · rw [ofLines, herr] at h
    cases h
  · rw [ofLines, herr] at h
    cases h

/-- The nodes put, in order, into the innermost open block. -/
def attachAll (ns : List Node) (root : List Node) : List OpenBlock → List Node × List OpenBlock
  | [] => (ns.reverse ++ root, [])
  | b :: outer => (root, { b with body := ns.reverse ++ b.body } :: outer)

theorem attachAll_cons (n : Node) (ns root : List Node) (stack : List OpenBlock) :
    attachAll (n :: ns) root stack =
      attachAll ns (attach n root stack).1 (attach n root stack).2 := by
  cases stack <;> simp [attachAll, attach]

/-- The lines of well-formed nodes bring back these nodes, whatever is open and whatever follows. -/
theorem nest_linesOf {ns : List Node} (h : WellFormed ns) (root : List Node)
    (stack : List OpenBlock) (rest : List Line) :
    nest root stack (Node.linesOf ns ++ rest) =
      nest (attachAll ns root stack).1 (attachAll ns root stack).2 rest := by
  induction h generalizing root stack rest with
  | nil => cases stack <;> rfl
  | @line l ns hopen hclose _ ih =>
    rw [attachAll_cons, ← ih, ← nest_leaf hopen hclose]
    rfl
  | @block kind opener closer body ns hopen _ hclose _ ihbody ihrest =>
    have hlines : Node.linesOf (.block kind opener body closer :: ns) ++ rest =
        opener :: (Node.linesOf body ++ closer :: (Node.linesOf ns ++ rest)) := by
      simp [Node.linesOf, Node.lines]
    have hbody : attachAll body root (⟨kind, opener, []⟩ :: stack) =
        (root, ⟨kind, opener, body.reverse⟩ :: stack) := by
      simp [attachAll]
    rw [attachAll_cons, ← ihrest, hlines, nest_opener hopen, ihbody, hbody, nest_closer hclose,
      List.reverse_reverse]

theorem ofLines_lines {p : Program} (h : WellFormed p) : ofLines (lines p) = .ok p := by
  have hnest := nest_linesOf h [] [] []
  rw [List.append_nil] at hnest
  rw [ofLines, lines, hnest]
  simp [attachAll, nest]

/-- Nesting and flattening are inverse bijections between the accepted line sequences and the
well-formed trees. -/
theorem ofLines_lines_inverse :
    (∀ ls p, ofLines ls = .ok p → lines p = ls ∧ WellFormed p) ∧
    (∀ p, WellFormed p → ofLines (lines p) = .ok p) ∧
    Set.BijOn lines {p | WellFormed p} {ls | ∃ p, ofLines ls = .ok p} := by
  refine ⟨fun ls p h => (wellFormed_of_ofLines h).symm, fun p h => ofLines_lines h, ?_, ?_, ?_⟩
  · intro p hp
    exact ⟨p, ofLines_lines hp⟩
  · intro p hp q hq hpq
    have hok : (.ok p : Except Fault Program) = .ok q := by
      rw [← ofLines_lines hp, ← ofLines_lines hq, hpq]
    exact Except.ok.inj hok
  · rintro ls ⟨p, hp⟩
    exact ⟨p, wellFormed_of_ofLines hp⟩

end ProseScript.Program
