import ProseScript.Lint
import ProseScript.Proofs.Program.Marks
import ProseScript.Proofs.Program.Occurs

/-!
What the check of a program finds. Main statement: the problems that it reports are those of single
nodes outside the bodies of `GEN` blocks, each of which can be told from the node alone.
-/

namespace ProseScript.Lint

open Node (Occurs)

/-- A node stands where the check looks at commands and blocks: in a sequence or, at any depth,
inside one of its blocks other than `GEN` blocks. -/
inductive Checked (n : Node) : List Node → Prop
  | here {ns : List Node} (h : n ∈ ns) : Checked n ns
  | inside {ns body : List Node} {kind : BlockKind} {opener closer : Line} (hkind : kind ≠ .gen)
      (hblock : .block kind opener body closer ∈ ns) (hbody : Checked n body) : Checked n ns

namespace Checked

variable {n : Node} {ns body : List Node} {kind : BlockKind} {opener closer : Line}

theorem occurs (h : Checked n ns) : Occurs n ns := by
  induction h with
  | here h => exact .here h
  | inside _ hblock _ ih => exact .inside hblock ih

theorem mono (h : Checked n ns) {ms : List Node} (hsub : ns ⊆ ms) : Checked n ms := by
  cases h with
  | here h => exact .here (hsub h)
  | inside hkind hblock hbody => exact .inside hkind (hsub hblock) hbody

/-- What stands in the body of a block is checked where the block is, unless it is a `GEN` block. -/
theorem of_body (hblock : Checked (.block kind opener body closer) ns) (hkind : kind ≠ .gen)
    {m : Node} (hm : m ∈ body) : Checked m ns := by
  induction hblock with
  | here h => exact .inside hkind h (.here hm)
  | inside houter h _ ih => exact .inside houter h ih

@[simp] theorem not_nil : ¬ Checked n [] := by
  intro h
  cases h with
  | here h => simp at h
  | inside _ h => simp at h

theorem cons_iff {m : Node} : Checked n (m :: ns) ↔ Checked n [m] ∨ Checked n ns := by
  constructor
  · intro h
    cases h with
    | here h =>
      rcases List.mem_cons.1 h with rfl | h
      · exact .inl (.here List.mem_cons_self)
      · exact .inr (.here h)
    | inside hkind h hbody =>
      rcases List.mem_cons.1 h with rfl | h
      · exact .inl (.inside hkind List.mem_cons_self hbody)
      · exact .inr (.inside hkind h hbody)
  · rintro (h | h)
    · exact h.mono (by simp)
    · exact h.mono (List.subset_cons_self _ _)

@[simp] theorem line_iff (l : Line) : Checked n [.line l] ↔ n = .line l := by
  constructor
  · intro h
    cases h with
    | here h => exact List.mem_singleton.1 h
    | inside _ h => simp at h
  · rintro rfl
    exact .here List.mem_cons_self

@[simp] theorem block_iff :
    Checked n [.block kind opener body closer] ↔
      n = .block kind opener body closer ∨ kind ≠ .gen ∧ Checked n body := by
  constructor
  · intro h
    cases h with
    | here h => exact .inl (List.mem_singleton.1 h)
    | inside hkind h hbody =>
      obtain ⟨rfl, -, rfl, -⟩ := Node.block.inj (List.mem_singleton.1 h)
      exact .inr ⟨hkind, hbody⟩
  · rintro (rfl | ⟨hkind, hbody⟩)
    · exact .here List.mem_cons_self
    · exact .inside hkind List.mem_cons_self hbody

end Checked

/-- The problem of a node in the body of a `GEN` block: blocks have no place there, and lines have
three or four words. -/
inductive FindsField : Node → Problem → Prop
  | nestedBlock (kind : BlockKind) (opener : Line) (body : List Node) (closer : Line) :
      FindsField (.block kind opener body closer) (.nestedBlock opener kind)
  | fieldWords {l : Line} (hidle : l.isIdle = false)
      (hcount : ¬ (3 ≤ (Text.words l.text).length ∧ (Text.words l.text).length ≤ 4)) :
      FindsField (.line l) (.fieldWords l (Text.words l.text).length)

/-- The problem of a node by itself: a line that is no command, a format of unknown letters, or a
`GEN` block with a problem in its body. -/
inductive Finds : Node → Problem → Prop
  | unknownCommand {l : Line} (hidle : l.isIdle = false) (hl : Command.ofLine? l = none) :
      Finds (.line l) (.unknownCommand l)
  | badFormat {l : Line} {codes : String} {e : UnknownCodes}
      (hl : Command.ofLine? l = some .format) (hcodes : l.paramWords = [codes])
      (he : Format.ofText codes = .error e) : Finds (.line l) (.badFormat l e)
  | field {opener closer : Line} {body : List Node} {n : Node} {q : Problem} (hn : n ∈ body)
      (hq : FindsField n q) : Finds (.block .gen opener body closer) q

variable {q : Problem}

@[simp] theorem mem_problems_addProblem (r : Report) (p : Problem) :
    q ∈ (r.addProblem p).problems ↔ q ∈ r.problems ∨ q = p := by
  simp [Report.addProblem]

@[simp] theorem problems_describe (r : Report) (opener : Line) :
    (r.describe opener).problems = r.problems := by
  unfold Report.describe
  split <;> rfl

/-- An idle line has no problem, and a command has one only if it sets a format of unknown letters. -/
theorem finds_line_iff {l : Line} :
    Finds (.line l) q ↔ l.isIdle = false ∧
      ((Command.ofLine? l = none ∧ q = .unknownCommand l) ∨
        Command.ofLine? l = some .format ∧
          ∃ codes e, l.paramWords = [codes] ∧ Format.ofText codes = .error e ∧ q = .badFormat l e) := by
  constructor
  · intro h
    cases h with
    | unknownCommand hidle hl => exact ⟨hidle, .inl ⟨hl, rfl⟩⟩
    | badFormat hl hcodes he =>
      exact ⟨Line.isIdle_of_ofLine? hl, .inr ⟨hl, _, _, hcodes, he, rfl⟩⟩
  · rintro ⟨hidle, ⟨hl, rfl⟩ | ⟨hl, codes, e, hcodes, he, rfl⟩⟩
    · exact .unknownCommand hidle hl
    · exact .badFormat hl hcodes he

theorem mem_problems_line (l : Line) (r : Report) :
    q ∈ (line l r).problems ↔ q ∈ r.problems ∨ Finds (.line l) q := by
  rw [finds_line_iff]
  unfold line
  split
  · next hidle => simp [hidle]
  next hidle =>
  have hidle : l.isIdle = false := by simpa using hidle
  dsimp only
  split
  · next hl => simp [hl, hidle, Report.addCommand]
  · next hl =>
    split
    · next codes hcodes =>
      cases he : Format.ofText codes with
      | ok format => simp [hl, hcodes, he, Report.addCommand]
      | error e => simp [hl, hidle, hcodes, he, Report.addCommand]
    · next hcodes =>
      have hother (codes : String) : l.paramWords ≠ [codes] := hcodes codes
      simp [hl, hother, Report.addCommand]
  · next hl =>
    split
    · split <;> simp [hl, Report.addCommand]
    · simp [hl, Report.addCommand]
  · next c hformat _ hl =>
    have hne : c ≠ .format := hformat
    simp [hl, hne, Report.addCommand]

theorem mem_problems_fieldNode (n : Node) (r : Report) :
    q ∈ (fieldNode r n).problems ↔ q ∈ r.problems ∨ FindsField n q := by
  cases n with
  | block kind opener body closer =>
    have hiff : FindsField (.block kind opener body closer) q ↔ q = .nestedBlock opener kind := by
      constructor
      · rintro ⟨⟩
        rfl
      · rintro rfl
        exact .nestedBlock kind opener body closer
    simp [fieldNode, hiff]
  | line l =>
    have hiff : FindsField (.line l) q ↔ l.isIdle = false ∧
        ¬ (3 ≤ (Text.words l.text).length ∧ (Text.words l.text).length ≤ 4) ∧
        q = .fieldWords l (Text.words l.text).length := by
      constructor
      · rintro ⟨⟩
        next hidle hcount => exact ⟨hidle, hcount, rfl⟩
      · rintro ⟨hidle, hcount, rfl⟩
        exact .fieldWords hidle hcount
    rw [hiff]
    simp only [fieldNode]
    split
    · next hidle => simp [hidle]
    next hidle =>
    have hidle : l.isIdle = false := by simpa using hidle
    split
    · next hcount => simp [hcount]
    · next hcount => simp only [mem_problems_addProblem, hidle, hcount, not_false_eq_true, true_and]

theorem mem_problems_fields (body : List Node) (r : Report) :
    q ∈ (body.foldl fieldNode r).problems ↔ q ∈ r.problems ∨ ∃ n ∈ body, FindsField n q := by
  induction body generalizing r with
  | nil => simp
  | cons n rest ih =>
    rw [List.foldl_cons, ih, mem_problems_fieldNode]
    simp [or_assoc]

mutual

theorem mem_problems_node : (n : Node) → (r : Report) →
    (q ∈ (node n r).problems ↔ q ∈ r.problems ∨ ∃ m, Checked m [n] ∧ Finds m q)
  | .line l, r => by
    rw [node, mem_problems_line]
    simp
  | .block .gen opener body closer, r => by
    have hiff : Finds (.block .gen opener body closer) q ↔ ∃ n ∈ body, FindsField n q := by
      constructor
      · rintro ⟨⟩
        next n hn hq => exact ⟨n, hn, hq⟩
      · rintro ⟨n, hn, hq⟩
        exact .field hn hq
    rw [node, mem_problems_fields]
    simp [hiff, Report.addBlock]
  | .block .desc opener body closer, r => by
    have hnone : ¬ Finds (.block .desc opener body closer) q := by rintro ⟨⟩
    rw [node, mem_problems_nodes body]
    simp [or_and_right, exists_or, hnone, Report.addBlock]
  | .block .loop opener body closer, r => by
    have hnone : ¬ Finds (.block .loop opener body closer) q := by rintro ⟨⟩
    rw [node, mem_problems_nodes body]
    simp [or_and_right, exists_or, hnone, Report.addBlock]

/-- The problems after checking a sequence: those before, and those of the nodes in it. -/
theorem mem_problems_nodes : (ns : List Node) → (r : Report) →
    (q ∈ (nodes ns r).problems ↔ q ∈ r.problems ∨ ∃ m, Checked m ns ∧ Finds m q)
  | [], r => by simp [nodes]
  | n :: rest, r => by
    have hcons (m : Node) : Checked m (n :: rest) ↔ Checked m [n] ∨ Checked m rest :=
      Checked.cons_iff
    rw [nodes, mem_problems_nodes rest, mem_problems_node n, or_assoc]
    simp only [hcons, or_and_right, exists_or]

end

theorem mem_problems_program {p : Program} :
    q ∈ (program p).problems ↔ ∃ m, Checked m p ∧ Finds m q := by
  rw [program, mem_problems_nodes]
  simp [Report.empty]

end ProseScript.Lint
