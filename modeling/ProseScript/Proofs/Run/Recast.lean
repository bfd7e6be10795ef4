import ProseScript.Proofs.Run.Frame
import ProseScript.Proofs.Run.Parallel
import ProseScript.Proofs.Store.Snippets

/-!
Commands under another current line and other snippets. Main statement: a command that neither
describes nor calls a snippet does the same there, and leaves both as they are.
-/

namespace ProseScript

namespace State

def recast (s : State) (line : Option Line) (snippets : Table (List Node)) : State :=
  { s with current := line, store := s.store.withSnippets snippets }

variable (s : State) (k : Option Line) (sn : Table (List Node))

@[simp] theorem store_recast : (s.recast k sn).store = s.store.withSnippets sn := rfl

@[simp] theorem lookup_recast (name : String) : (s.recast k sn).lookup name = s.lookup name :=
  s.store.lookup_all_withSnippets sn name

theorem recast_ite_warn (p : Bool) (w : Warning) :
    (if p then (s.recast k sn).warn w else s.recast k sn) =
      (if p then s.warn w else s).recast k sn := by
  cases p <;> rfl

end State

namespace Run

variable (l : Line) (s : State) (k : Option Line) (sn : Table (List Node))

theorem setFormat_recast :
    setFormat l (s.recast k sn) = (setFormat l s).map fun t => t.recast k sn := by
  unfold setFormat
  split
  · split <;> rfl
  · rfl

theorem writeFixed_recast (code : FormatCode) (sentence : String) :
    writeFixed l code sentence (s.recast k sn) =
      (writeFixed l code sentence s).map fun t => t.recast k sn := by
  unfold writeFixed
  split <;> rfl

theorem display_recast : display l (s.recast k sn) = (display l s).map fun t => t.recast k sn := by
  simp only [display]
  split
  · rfl
  · split
    · rfl
    · next n _ =>
      by_cases hmore : s.output.toList.length < n.natAbs
      · have hmore' : (s.recast k sn).output.toList.length < n.natAbs := hmore
        rw [if_pos hmore, if_pos hmore']
        rfl
      · have hmore' : ¬ (s.recast k sn).output.toList.length < n.natAbs := hmore
        rw [if_neg hmore, if_neg hmore']
        split <;> rfl
  · rfl

theorem refGender_recast :
    refGender l (s.recast k sn) = (refGender l s).map fun t => t.recast k sn := by
  simp only [refGender, State.lookup_recast]
  split
  · rfl
  split
  · split
    · rfl
    · next items _ =>
      change (setGenderFields l items _ s.genders).map _ = _
      cases setGenderFields l items _ s.genders <;> rfl
    · rfl
  · rfl

theorem recite_recast : recite l (s.recast k sn) = (recite l s).map fun t => t.recast k sn := by
  have hsource (name : String) (all : Bool) (items : List String) :
      reciteSource (s.recast k sn) name all items = reciteSource s name all items := rfl
  simp only [recite, State.lookup_recast, hsource]
  split
  · rfl
  split
  · rfl
  split
  · rfl
  split
  · rfl
  · rw [State.recast_ite_warn, State.store_recast, Store.assignAll_withSnippets]
    generalize Store.assignAll l _ _ _ = stored
    obtain ⟨store, fault⟩ := stored
    cases fault <;> rfl
  · rfl

theorem shiftGroup_recast (name : String) (offset : Int) :
    shiftGroup l name offset (s.recast k sn) =
      (shiftGroup l name offset s).map fun t => t.recast k sn := by
  have hgroup : (s.recast k sn).store.group? name = s.store.group? name := rfl
  simp only [shiftGroup, hgroup]
  split
  · rfl
  split
  · rfl
  · split <;> rfl

theorem shift_recast : shift l (s.recast k sn) = (shift l s).map fun t => t.recast k sn := by
  unfold shift
  split
  · exact shiftGroup_recast l s k sn _ 1
  · split
    · rfl
    · exact shiftGroup_recast l s k sn _ _
  · rfl

theorem shuffle_recast : shuffle l (s.recast k sn) = (shuffle l s).map fun t => t.recast k sn := by
  unfold shuffle
  split
  · next word _ =>
    have hgroup : (s.recast k sn).store.group? (Text.lower word) =
      s.store.group? (Text.lower word) := rfl
    simp only [hgroup]
    split
    · rfl
    split <;> rfl
  · rfl

theorem assign_recast (style : Style) :
    assign style l (s.recast k sn) = (assign style l s).map fun t => t.recast k sn := by
  have hassign : Expression.assign style l (s.recast k sn).store (s.recast k sn).chance = _ :=
    Expression.assign_withSnippets l s.store sn style s.chance
  simp only [assign, hassign]
  cases h : Expression.assign style l s.store s.chance with
  | mk stored chance =>
    obtain ⟨store, fault⟩ := stored
    cases fault <;> rfl

theorem crash?_recast (c : Command) : crash? c l (s.recast k sn) = crash? c l s := by
  cases c <;> rfl

theorem genCrash?_recast : genCrash? l (s.recast k sn) = genCrash? l s := rfl

theorem simple_recast (c : Command) :
    simple c l (s.recast k sn) = (simple c l s).map fun t => t.recast k sn := by
  unfold simple
  split
  · exact assign_recast l s k sn _
  cases c with
  | display => exact display_recast l s k sn
  | format => exact setFormat_recast l s k sn
  | newLine => exact writeFixed_recast l s k sn _ _
  | newPara => exact writeFixed_recast l s k sn _ _
  | newChapter => exact writeFixed_recast l { s with chapter := s.chapter + 1 } k sn _ _
  | refGender => exact refGender_recast l s k sn
  | recite => exact recite_recast l s k sn
  | shift => exact shift_recast l s k sn
  | shuffle => exact shuffle_recast l s k sn
  | _ => rfl

theorem writePlan_recast : writePlan l (s.recast k sn) = writePlan l s := by
  simp only [writePlan, writeWords, writeSentences, State.lookup_recast]
  rfl

theorem writeOne_recast (p : WritePlan) (x y : Nat × State) (h : y = (x.1, x.2.recast k sn)) :
    Outcome.Parallel (fun x y => y = (x.1, x.2.recast k sn)) (writeOne l p x) (writeOne l p y) := by
  obtain ⟨index, s⟩ := x
  subst h
  have hpick : p.sentences.pick index (s.recast k sn).chance = p.sentences.pick index s.chance := rfl
  simp only [writeOne, hpick, State.store_recast, Placeholder.substitute_withSnippets]
  split
  · exact .failed _ _
  · apply Outcome.Parallel.finished
    rw [State.warnAll_eq, State.warnAll_eq]
    rfl

theorem write_recast (limit : Nat) :
    Outcome.Parallel (fun s t => t = s.recast k sn) (write limit l s)
      (write limit l (s.recast k sn)) := by
  have hwords : (s.recast k sn).wordCount = s.wordCount := rfl
  simp only [write, writePlan_recast, hwords]
  split
  · exact .failed _ _
  next p chance _ =>
  split
  · exact .crashed _ _
  · apply Outcome.Parallel.bind (R := fun x y => y = (x.1, x.2.recast k sn))
    · apply Outcome.Parallel.repeated (writeOne_recast l k sn p) p.counting
      · intro x y hxy
        rw [hxy]
        rfl
      · rfl
    · intro x y hxy
      rw [hxy]
      exact .finished rfl

theorem fillField_recast (members : List Entity) :
    fillField l members (s.recast k sn) =
      (fillField l members s).map fun x => (x.1, x.2.recast k sn) := by
  have hsource (u : State) (name : String) :
      fieldSource l (u.recast k sn) name = fieldSource l u name := by
    simp only [fieldSource, State.lookup_recast]
  simp only [fillField, State.recast_ite_warn, hsource]
  split
  · rfl
  split
  · next fieldWord countWord sourceWord flags _ =>
    split
    · rfl
    · -- Only the state after the warning matters from here on.
      generalize (if (members.head?.map fun e => e.has (Text.lower fieldWord)).getD false then
        s.warn (((overwriteWarning (Text.lower fieldWord)).on l).inCommand "GEN") else s) = u
      change (fieldCount l u.chance countWord >>= _) = _
      cases fieldCount l u.chance countWord with
      | error f => rfl
      | ok counted =>
        cases wantsDistinct l flags[0]? with
        | error f => rfl
        | ok distinct => cases fieldSource l u (Text.lower sourceWord) <;> rfl
  · rfl

theorem storeGroup_withSnippets (name : String) (members : List Entity) (s : Store) :
    storeGroup l name members (s.withSnippets sn) =
      (storeGroup l name members s).map fun t => t.withSnippets sn := by
  simp only [storeGroup, Store.assign_withSnippets]
  cases s.assign name (.group members) with
  | error e => rfl
  | ok t =>
    have hgroup : (t.withSnippets sn).group? name = t.group? name := rfl
    simp only [Except.map, hgroup]
    cases (t.group? name).bind fun g => g.pointAt 0 <;> rfl

end Run

end ProseScript
