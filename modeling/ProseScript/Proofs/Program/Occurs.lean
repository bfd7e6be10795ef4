import ProseScript.Program

/-!
The nodes of a program at any depth. Main statement: whatever stands in the body of a node of a
program is a node of the program too, begins with one of its lines and is no deeper than it.
-/

namespace ProseScript.Node

/-- A node stands in a sequence or, at any depth, inside one of its blocks. -/
inductive Occurs (n : Node) : List Node → Prop
  | here {ns : List Node} (h : n ∈ ns) : Occurs n ns
  | inside {ns body : List Node} {kind : BlockKind} {opener closer : Line}
      (hblock : .block kind opener body closer ∈ ns) (hbody : Occurs n body) : Occurs n ns

/-- The lines that a node tells of, under a command word each: its own first line, and under `GEN` the
first lines of what stands in the body of a `GEN` block. -/
inductive Tells : Node → Line → String → Prop
  | own (n : Node) : Tells n n.firstLine n.firstLine.keyword
  | field {opener closer : Line} {body : List Node} {m : Node} (h : m ∈ body) :
      Tells (.block .gen opener body closer) m.firstLine "GEN"

mutual

/-- How many blocks a node has one inside the other. -/
def depth : Node → Nat
  | line _ => 0
  | block _ _ body _ => depthOf body + 1

def depthOf : List Node → Nat
  | [] => 0
  | n :: rest => max n.depth (depthOf rest)

end

theorem depth_le_of_mem {n : Node} {ns : List Node} (h : n ∈ ns) : n.depth ≤ depthOf ns := by
  induction ns with
  | nil => simp at h
  | cons m rest ih =>
    rw [depthOf]
    rcases List.mem_cons.1 h with rfl | h
    · exact Nat.le_max_left _ _
    · exact Nat.le_trans (ih h) (Nat.le_max_right _ _)

theorem mem_linesOf {n : Node} {ns : List Node} (h : n ∈ ns) {l : Line} (hl : l ∈ n.lines) :
    l ∈ linesOf ns := by
  induction ns with
  | nil => simp at h
  | cons m rest ih =>
    rw [linesOf, List.mem_append]
    rcases List.mem_cons.1 h with rfl | h
    · exact .inl hl
    · exact .inr (ih h)

namespace Occurs

variable {n : Node} {ns body : List Node} {kind : BlockKind} {opener closer : Line}

@[simp] theorem not_nil : ¬ Occurs n [] := by
  intro h
  cases h with
  | here h => simp at h
  | inside h => simp at h

theorem mono (h : Occurs n ns) {ms : List Node} (hsub : ns ⊆ ms) : Occurs n ms := by
  cases h with
  | here h => exact .here (hsub h)
  | inside h hbody => exact .inside (hsub h) hbody

@[simp] theorem line_cons_iff (l : Line) :
    Occurs n (.line l :: ns) ↔ n = .line l ∨ Occurs n ns := by
  constructor
  · intro h
    cases h with
    | here h => exact (List.mem_cons.1 h).imp_right .here
    | inside h hbody => exact .inr (.inside (by simpa using h) hbody)
  · rintro (rfl | h)
    · exact .here List.mem_cons_self
    · exact h.mono (List.subset_cons_self _ _)

@[simp] theorem block_cons_iff :
    Occurs n (.block kind opener body closer :: ns) ↔
      n = .block kind opener body closer ∨ Occurs n body ∨ Occurs n ns := by
  constructor
  · intro h
    cases h with
    | here h => exact (List.mem_cons.1 h).imp_right fun h => .inr (.here h)
    | inside h hbody =>
      rcases List.mem_cons.1 h with heq | h
      · injection heq with _ _ hsame _
        exact .inr (.inl (hsame ▸ hbody))
      · exact .inr (.inr (.inside h hbody))
  · rintro (rfl | h | h)
    · exact .here List.mem_cons_self
    · exact .inside List.mem_cons_self h
    · exact h.mono (List.subset_cons_self _ _)

/-- What stands in the body of a block occurs where the block does. -/
theorem of_body (hblock : Occurs (.block kind opener body closer) ns) {m : Node} (hm : m ∈ body) :
    Occurs m ns := by
  induction hblock with
  | here h => exact .inside h (.here hm)
  | inside h _ ih => exact .inside h ih

theorem depth_le (h : Occurs n ns) : n.depth ≤ depthOf ns := by
  induction h with
  | here h => exact depth_le_of_mem h
  | inside h _ ih =>
    have hblock := depth_le_of_mem h
    rw [depth] at hblock
    omega

theorem firstLine_mem (h : Occurs n ns) : n.firstLine ∈ linesOf ns := by
  induction h with
  | here h => exact mem_linesOf h (by cases n <;> simp [lines, firstLine])
  | inside h _ ih => exact mem_linesOf h (by simp [lines, ih])

end Occurs

end ProseScript.Node
