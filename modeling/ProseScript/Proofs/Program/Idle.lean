import ProseScript.Program.Nesting
import ProseScript.Proofs.Program.Marks

/-!
Programs without blank lines and comments. Main statement: nesting the lines that are left gives the
tree of all lines without the leaves that are gone, or the same fault.
-/

namespace ProseScript

namespace Node

mutual

/-- A node without the lines that have no effect, at every depth. -/
def strip : Node → List Node
  | line l => if l.isIdle then [] else [line l]
  | block kind opener body closer => [block kind opener (stripAll body) closer]

def stripAll : List Node → List Node
  | [] => []
  | n :: rest => n.strip ++ stripAll rest

end

theorem strip_idle {l : Line} (h : l.isIdle = true) : strip (line l) = [] := by
  simp [strip, h]

theorem strip_line {l : Line} (h : l.isIdle = false) : strip (line l) = [line l] := by
  simp [strip, h]

theorem stripAll_append (xs ys : List Node) :
    stripAll (xs ++ ys) = stripAll xs ++ stripAll ys := by
  induction xs with
  | nil => simp [stripAll]
  | cons x xs ih => simp [stripAll, ih]

theorem stripAll_singleton (n : Node) : stripAll [n] = n.strip := by
  simp [stripAll]

theorem reverse_strip (n : Node) : n.strip.reverse = n.strip := by
  cases n with
  | line l => cases h : l.isIdle <;> simp [strip, h]
  | block kind opener body closer => simp [strip]

theorem stripAll_reverse (ns : List Node) : stripAll ns.reverse = (stripAll ns).reverse := by
  induction ns with
  | nil => simp [stripAll]
  | cons n rest ih =>
    rw [List.reverse_cons, stripAll_append, stripAll_singleton, ih, stripAll, List.reverse_append,
      reverse_strip]

end Node

def OpenBlock.strip (b : OpenBlock) : OpenBlock := { b with body := Node.stripAll b.body }

namespace Program

open Node (stripAll)

section Attach

variable (root : List Node) (stack : List OpenBlock)

theorem strip_attach_idle {n : Node} (h : n.strip = []) :
    stripAll (attach n root stack).1 = stripAll root ∧
      (attach n root stack).2.map OpenBlock.strip = stack.map OpenBlock.strip := by
  cases stack <;> simp [attach, stripAll, h, OpenBlock.strip]

theorem attach_strip {n m : Node} (h : n.strip = [m]) :
    attach m (stripAll root) (stack.map OpenBlock.strip) =
      (stripAll (attach n root stack).1, (attach n root stack).2.map OpenBlock.strip) := by
  cases stack <;> simp [attach, stripAll, h, OpenBlock.strip]

end Attach

/-- Lines without effect may be left out before nesting or after it. -/
theorem nest_strip (root : List Node) (stack : List OpenBlock) (ls : List Line) :
    nest (stripAll root) (stack.map OpenBlock.strip) (ls.filter fun l => !l.isIdle) =
      (nest root stack ls).map stripAll := by
  induction ls generalizing root stack with
  | nil =>
    cases stack with
    | nil => simp [nest, Except.map, Node.stripAll_reverse]
    | cons b outer => simp [nest, Except.map, OpenBlock.strip]
  | cons l rest ih =>
    cases hidle : l.isIdle with
    | true =>
      have hopen := Line.ofOpener?_of_isIdle hidle
      have hclose := Line.isCloser_of_isIdle hidle
      have hattach := strip_attach_idle root stack (Node.strip_idle hidle)
      have hrest := ih (attach (.line l) root stack).1 (attach (.line l) root stack).2
      rw [hattach.1, hattach.2] at hrest
      simpa [nest, hidle, hopen, hclose] using hrest
    | false =>
      rw [List.filter_cons_of_pos (by simp [hidle])]
      cases hopen : BlockKind.ofOpener? l with
      | some kind =>
        have hrest := ih root (⟨kind, l, []⟩ :: stack)
        simpa [nest, hopen, OpenBlock.strip, stripAll] using hrest
      | none =>
        cases hclose : l.isCloser with
        | false =>
          have hattach := attach_strip root stack (Node.strip_line hidle)
          have hrest := ih (attach (.line l) root stack).1 (attach (.line l) root stack).2
          simpa [nest, hopen, hclose, hattach] using hrest
        | true =>
          cases stack with
          | nil => simp [nest, hopen, hclose, Except.map]
          | cons b outer =>
            have hblock : Node.strip (.block b.kind b.opener b.body.reverse l) =
                [.block b.kind b.opener (stripAll b.body).reverse l] := by
              rw [Node.strip, Node.stripAll_reverse]
            have hattach := attach_strip root outer hblock
            have hrest := ih (attach (.block b.kind b.opener b.body.reverse l) root outer).1
              (attach (.block b.kind b.opener b.body.reverse l) root outer).2
            simpa [nest, hopen, hclose, OpenBlock.strip, hattach] using hrest

theorem ofLines_strip (ls : List Line) :
    ofLines (ls.filter fun l => !l.isIdle) = (ofLines ls).map stripAll := by
  have hnest := nest_strip [] [] ls
  simpa [ofLines, stripAll] using hnest

end Program

end ProseScript
