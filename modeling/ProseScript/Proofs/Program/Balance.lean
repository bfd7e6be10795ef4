import ProseScript.Proofs.Program.RoundTrip

/-!
Which lines nest, by counting. Lines nest exactly when no first part of them closes more blocks than
it opens and all of them close as many as they open; otherwise the fault names the line at which the
count fails.
-/

namespace ProseScript.Program

def opens (l : Line) : Bool := (BlockKind.ofOpener? l).isSome

def openers (ls : List Line) : Nat := ls.countP opens

def closers (ls : List Line) : Nat := ls.countP Line.isCloser

/-- No first part of the lines closes more blocks than it opens. -/
def Covered (ls : List Line) : Prop := ∀ front, front <+: ls → closers front ≤ openers front

/-- The lines close every block they open, and no other. -/
structure Balanced (ls : List Line) : Prop where
  covered : Covered ls
  even : openers ls = closers ls

@[simp] theorem openers_append (xs ys : List Line) :
    openers (xs ++ ys) = openers xs + openers ys := List.countP_append

@[simp] theorem closers_append (xs ys : List Line) :
    closers (xs ++ ys) = closers xs + closers ys := List.countP_append

theorem opens_of_ofOpener? {l : Line} {kind : BlockKind} (h : BlockKind.ofOpener? l = some kind) :
    opens l = true := by
  simp [opens, h]

theorem not_opens_of_isCloser {l : Line} (h : l.isCloser = true) : opens l = false := by
  simp [opens, Line.ofOpener?_of_isCloser h]

theorem not_isCloser_of_opens {l : Line} (h : opens l = true) : l.isCloser = false := by
  obtain ⟨kind, hkind⟩ := Option.isSome_iff_exists.1 h
  exact Line.isCloser_of_ofOpener? hkind

theorem counts_opener {l : Line} (h : opens l = true) (ls : List Line) :
    openers (l :: ls) = openers ls + 1 ∧ closers (l :: ls) = closers ls := by
  simp [openers, closers, h, not_isCloser_of_opens h]

theorem counts_closer {l : Line} (h : l.isCloser = true) (ls : List Line) :
    openers (l :: ls) = openers ls ∧ closers (l :: ls) = closers ls + 1 := by
  simp [openers, closers, h, not_opens_of_isCloser h]

namespace Covered

variable {xs ys : List Line}

theorem nil : Covered [] := by
  intro front hfront
  rw [List.prefix_nil.1 hfront]
  exact Nat.le_refl 0

theorem left (h : Covered (xs ++ ys)) : Covered xs :=
  fun front hfront => h front (hfront.trans (List.prefix_append xs ys))

theorem le (h : Covered xs) : closers xs ≤ openers xs := h xs (List.prefix_refl xs)

theorem append (hx : Covered xs)
    (hy : ∀ front, front <+: ys → closers (xs ++ front) ≤ openers (xs ++ front)) :
    Covered (xs ++ ys) := by
  intro front hfront
  rcases List.prefix_or_prefix_of_prefix hfront (List.prefix_append xs ys) with hin | ⟨more, rfl⟩
  · exact hx front hin
  · exact hy more ((List.prefix_append_right_inj xs).1 hfront)

end Covered

namespace Balanced

variable {xs ys : List Line}

theorem nil : Balanced [] := ⟨Covered.nil, by simp [openers, closers]⟩

theorem append (hx : Balanced xs) (hy : Balanced ys) : Balanced (xs ++ ys) := by
  have hxe := hx.even
  have hye := hy.even
  refine ⟨hx.covered.append ?_, ?_⟩
  · intro front hfront
    have hle := hy.covered front hfront
    rw [openers_append, closers_append]
    omega
  · rw [openers_append, closers_append]
    omega

theorem leaf {l : Line} (hopen : opens l = false) (hclose : l.isCloser = false) :
    Balanced [l] := by
  have heven : openers [l] = closers [l] := by
    simp [openers, closers, hopen, hclose]
  refine ⟨?_, heven⟩
  intro front hfront
  rcases List.prefix_cons_iff.1 hfront with rfl | ⟨more, rfl, hmore⟩
  · exact Nat.le_refl 0
  · rw [List.prefix_nil.1 hmore]
    exact heven.ge

end Balanced

/-- An opener in front adds to the surplus. -/
theorem Covered.cons_opener {l : Line} {xs : List Line} (h : Covered xs) (hopen : opens l = true) :
    Covered (l :: xs) := by
  intro front hfront
  rcases List.prefix_cons_iff.1 hfront with rfl | ⟨more, rfl, hmore⟩
  · exact Nat.le_refl 0
  · have hle := h more hmore
    have hcounts := counts_opener hopen more
    omega

/-- A closer may follow where openers are in surplus. -/
theorem Covered.concat_closer {l : Line} {xs : List Line} (h : Covered xs)
    (hmore : closers xs < openers xs) (hclose : l.isCloser = true) : Covered (xs ++ [l]) := by
  refine h.append ?_
  intro front hfront
  rcases List.prefix_cons_iff.1 hfront with rfl | ⟨more, rfl, hnil⟩
  · rw [List.append_nil]
    exact h.le
  · have hcounts := counts_closer hclose []
    have hzero : openers [] = 0 ∧ closers [] = 0 := ⟨rfl, rfl⟩
    rw [List.prefix_nil.1 hnil, openers_append, closers_append]
    omega

namespace Balanced

variable {xs ys : List Line}

/-- An opener, balanced lines and a closer. -/
theorem block {opener closer : Line} (hopen : opens opener = true) (hx : Balanced xs)
    (hclose : closer.isCloser = true) : Balanced (opener :: (xs ++ [closer])) := by
  have heven := hx.even
  have hfirst := counts_opener hopen xs
  have hlast := counts_closer hclose []
  have hzero : openers [] = 0 ∧ closers [] = 0 := ⟨rfl, rfl⟩
  rw [← List.cons_append]
  refine ⟨(hx.covered.cons_opener hopen).concat_closer (by omega) hclose, ?_⟩
  rw [openers_append, closers_append]
  omega

/-- After an opener among balanced lines, the others close more blocks than they open. -/
theorem not_covered_after {l : Line} (h : Balanced (xs ++ l :: ys)) (hopen : opens l = true) :
    ¬ Covered ys := by
  intro hys
  have hle := hys.le
  have hbefore := h.covered.left.le
  have heven := h.even
  have hcounts := counts_opener hopen ys
  rw [openers_append, closers_append] at heven
  omega

end Balanced

theorem WellFormed.balanced {ns : List Node} (h : WellFormed ns) : Balanced (Node.linesOf ns) := by
  induction h with
  | nil => exact Balanced.nil
  | @line l ns hopen hclose _ ih =>
    have hleaf : Balanced [l] := .leaf (by simp [opens, hopen]) hclose
    simpa [Node.linesOf, Node.lines] using hleaf.append ih
  | @block kind opener closer body ns hopen _ hclose _ ihbody ihrest =>
    have hblock := Balanced.block (opens_of_ofOpener? hopen) ihbody hclose
    simpa [Node.linesOf, Node.lines] using hblock.append ihrest

namespace Reading

variable {read : List Line} {root : List Node} {stack : List OpenBlock}

/-- What has been read is covered, and its surplus of openers is the number of open blocks. -/
theorem counts (h : Reading read root stack) :
    Covered read ∧ openers read = closers read + stack.length := by
  induction stack generalizing read with
  | nil =>
    have hroot : Balanced read := h.lines ▸ h.root.balanced
    exact ⟨hroot.covered, hroot.even⟩
  | cons b outer ih =>
    have hb : b ∈ b :: outer := by simp
    obtain ⟨hcov, hsum⟩ := ih ⟨rfl, h.root, fun c hc => h.marks c (by simp [hc]),
      fun c hc => h.bodies c (by simp [hc])⟩
    have hbody := (h.bodies b hb).balanced
    have hopen := opens_of_ofOpener? (h.marks b hb)
    have heven := hbody.even
    rw [← h.lines, linesBehind]
    constructor
    · refine hcov.append ?_
      intro front hfront
      have hle := (hbody.covered.cons_opener hopen) front hfront
      rw [openers_append, closers_append]
      omega
    · have hcounts := counts_opener hopen (Node.linesOf b.body.reverse)
      rw [openers_append, closers_append, List.length_cons]
      omega

/-- The innermost open block began at an opener that stays open, and all later ones were closed. -/
theorem innermost {b : OpenBlock} {outer : List OpenBlock} (h : Reading read root (b :: outer)) :
    ∃ before after, read = before ++ b.opener :: after ∧ opens b.opener = true ∧ Balanced after := by
  have hb : b ∈ b :: outer := by simp
  exact ⟨_, _, h.lines.symm, opens_of_ofOpener? (h.marks b hb), (h.bodies b hb).balanced⟩

end Reading

/-- Where the lines nest, and the fault where they do not. An opener stays open when the lines after
it are covered. -/
theorem ofLines_by_counting (ls : List Line) :
    (∀ l ∈ ls, ¬ (opens l = true ∧ l.isCloser = true)) ∧
    ((∃ p, ofLines ls = .ok p) ↔ Covered ls ∧ openers ls = closers ls) ∧
    (¬ Covered ls → ∃ before l after f, ls = before ++ l :: after ∧
      Covered before ∧ openers (before ++ [l]) < closers (before ++ [l]) ∧
      ofLines ls = .error f ∧ f.kind = .unmatchedCloser ∧ f.line = l.number ∧ f.text = l.text) ∧
    (Covered ls → openers ls ≠ closers ls → ∃ before l after f, ls = before ++ l :: after ∧
      opens l = true ∧ Covered after ∧
      (∀ front m back, after = front ++ m :: back → opens m = true → ¬ Covered back) ∧
      ofLines ls = .error f ∧ f.kind = .unclosedBlock ∧ f.line = l.number ∧ f.text = l.text ∧
      f.actual = some (toString (openers ls - closers ls) ++
        " extra starts or missing ends in your program")) := by
  have hboth : ∀ l ∈ ls, ¬ (opens l = true ∧ l.isCloser = true) := by
    rintro l _ ⟨hopen, hclose⟩
    simp [not_isCloser_of_opens hopen] at hclose
  refine ⟨hboth, ?_⟩
  rcases Reading.start.outcome ls with ⟨p, hp, hwell, hlines⟩ |
    ⟨before, l, after, root, hsplit, hread, hclose, herr⟩ | ⟨root, b, outer, hread, herr⟩
  · have hbal : Balanced ls := by
      rw [← List.nil_append ls, ← hlines]
      exact hwell.balanced
    exact ⟨⟨fun _ => ⟨hbal.covered, hbal.even⟩, fun _ => ⟨p, hp⟩⟩,
      fun h => absurd hbal.covered h, fun _ h => absurd hbal.even h⟩
  · rw [List.nil_append] at hsplit
    obtain ⟨hcov, hsum⟩ := hread.counts
    have hlast := counts_closer hclose []
    have hzero : openers [] = 0 ∧ closers [] = 0 := ⟨rfl, rfl⟩
    have hover : openers (before ++ [l]) < closers (before ++ [l]) := by
      rw [openers_append, closers_append]
      simp only [List.length_nil] at hsum
      omega
    have hnot : ¬ Covered ls := by
      intro h
      rw [hsplit, List.append_cons] at h
      exact absurd h.left.le (by omega)
    refine ⟨⟨?_, fun h => absurd h.1 hnot⟩, ?_, fun h => absurd h hnot⟩
    · rintro ⟨p, hp⟩
      rw [ofLines, herr] at hp
      cases hp
    · intro _
      exact ⟨before, l, after, unmatchedCloser l, hsplit, hcov, hover, herr, rfl, rfl, rfl⟩
  · rw [List.nil_append] at hread
    obtain ⟨hcov, hsum⟩ := hread.counts
    obtain ⟨before, after, hsplit, hopen, hbal⟩ := hread.innermost
    have hdepth : outer.length + 1 = openers ls - closers ls := by
      rw [List.length_cons] at hsum
      omega
    have huneven : openers ls ≠ closers ls := by omega
    refine ⟨⟨?_, fun h => absurd h.2 huneven⟩, fun h => absurd hcov h, ?_⟩
    · rintro ⟨p, hp⟩
      rw [ofLines, herr] at hp
      cases hp
    · intro _ _
      refine ⟨before, b.opener, after, _, hsplit, hopen, hbal.covered, ?_, herr, rfl, rfl, rfl, ?_⟩
      · intro front m back hafter hm
        exact (hafter ▸ hbal).not_covered_after hm
      · rw [hdepth]
        rfl

end ProseScript.Program
