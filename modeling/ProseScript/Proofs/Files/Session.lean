import ProseScript.Files.Session

/-!
How sessions end in a world in memory. Main statements: a chain of sessions runs one after the
other, and a session that only reads leaves the world as it was.
-/

namespace ProseScript.Session

variable {α β : Type}

@[simp] theorem run_pure (a : α) (w : World) : (pure a : Session α).run w = (a, w) := rfl

theorem run_bind (x : Session α) (f : α → Session β) (w : World) :
    (x >>= f).run w = (f (x.run w).1).run (x.run w).2 := by
  change (x.bind f).run w = _
  induction x generalizing w with
  | done a => rfl
  | read path next ih => exact ih _ w
  | list path next ih => exact ih _ w
  | holds path next ih => exact ih _ w
  | create path text next ih =>
    simp only [Session.bind, run]
    split
    · exact ih _ _
    · exact ih _ w
  | say text next ih => exact ih _
  | complain text next ih => exact ih _
  | ask next ih => exact ih _ _
  | seed next ih => exact ih _ w

/-- The session can end with an answer and in a world. Any seed may be given where one is asked
for. -/
inductive Ends : Session α → World → α → World → Prop
  | done {a : α} {w : World} : Ends (.done a) w a w
  | read {path : String} {next : Except FileFault String → Session α} {a : α} {w w' : World}
      (h : Ends (next (w.files.read path)) w a w') : Ends (.read path next) w a w'
  | list {path : String} {next : Except FileFault (List (FileName × EntryKind)) → Session α} {a : α}
      {w w' : World} (h : Ends (next (w.files.list path)) w a w') : Ends (.list path next) w a w'
  | holds {path : String} {next : Bool → Session α} {a : α} {w w' : World}
      (h : Ends (next (w.files.holds path)) w a w') : Ends (.holds path next) w a w'
  | made {path text : String} {next : Except FileFault Unit → Session α} {a : α} {w w' : World}
      {files : FileTree} (made : w.files.create path text = .ok files)
      (h : Ends (next (.ok ())) { w with files } a w') : Ends (.create path text next) w a w'
  | refused {path text : String} {next : Except FileFault Unit → Session α} {a : α} {w w' : World}
      {f : FileFault} (refused : w.files.create path text = .error f)
      (h : Ends (next (.error f)) w a w') : Ends (.create path text next) w a w'
  | say {text : String} {next : Session α} {a : α} {w w' : World}
      (h : Ends next { w with said := w.said ++ text } a w') : Ends (.say text next) w a w'
  | complain {text : String} {next : Session α} {a : α} {w w' : World}
      (h : Ends next { w with complained := w.complained ++ text } a w') :
      Ends (.complain text next) w a w'
  | ask {next : String → Session α} {a : α} {w w' : World} {line : List Char}
      (typed : line = w.input.takeWhile (· ≠ '\n'))
      (h : Ends (next (String.ofList line))
        { w with input := w.input.drop (line.length + 1) } a w') : Ends (.ask next) w a w'
  | seed {next : UInt64 → Session α} {a : α} {w w' : World} (n : UInt64)
      (h : Ends (next n) w a w') : Ends (.seed next) w a w'

variable {x : Session α} {f : α → Session β} {a a' : α} {b : β} {w w' : World}

theorem Ends.of_pure (h : (pure a : Session α).Ends w a' w') : a' = a ∧ w' = w := by
  change (Session.done a).Ends w a' w' at h
  cases h
  exact ⟨rfl, rfl⟩

/-- Every session ends. -/
theorem ends_run (x : Session α) (w : World) : x.Ends w (x.run w).1 (x.run w).2 := by
  induction x generalizing w with
  | done a => exact .done
  | read path next ih => exact .read (ih _ w)
  | list path next ih => exact .list (ih _ w)
  | holds path next ih => exact .holds (ih _ w)
  | create path text next ih =>
    cases hc : w.files.create path text with
    | ok files => simpa only [run, hc] using .made hc (ih (.ok ()) { w with files })
    | error f => simpa only [run, hc] using .refused hc (ih (.error f) w)
  | say text next ih => exact .say (ih _)
  | complain text next ih => exact .complain (ih _)
  | ask next ih => exact .ask rfl (ih _ _)
  | seed next ih => exact .seed w.entropy (ih _ w)

/-- A chain of sessions ends as its second does, begun where the first ends. -/
theorem Ends.of_bind (h : (x >>= f).Ends w b w') : ∃ a v, x.Ends w a v ∧ (f a).Ends v b w' := by
  change (x.bind f).Ends w b w' at h
  induction x generalizing w with
  | done a => exact ⟨a, w, .done, h⟩
  | read path next ih =>
    cases h with | read h =>
    obtain ⟨a, v, hx, hf⟩ := ih _ h
    exact ⟨a, v, .read hx, hf⟩
  | list path next ih =>
    cases h with | list h =>
    obtain ⟨a, v, hx, hf⟩ := ih _ h
    exact ⟨a, v, .list hx, hf⟩
  | holds path next ih =>
    cases h with | holds h =>
    obtain ⟨a, v, hx, hf⟩ := ih _ h
    exact ⟨a, v, .holds hx, hf⟩
  | create path text next ih =>
    cases h with
    | made made h =>
      obtain ⟨a, v, hx, hf⟩ := ih _ h
      exact ⟨a, v, .made made hx, hf⟩
    | refused refused h =>
      obtain ⟨a, v, hx, hf⟩ := ih _ h
      exact ⟨a, v, .refused refused hx, hf⟩
  | say text next ih =>
    cases h with | say h =>
    obtain ⟨a, v, hx, hf⟩ := ih h
    exact ⟨a, v, .say hx, hf⟩
  | complain text next ih =>
    cases h with | complain h =>
    obtain ⟨a, v, hx, hf⟩ := ih h
    exact ⟨a, v, .complain hx, hf⟩
  | ask next ih =>
    cases h with | ask typed h =>
    obtain ⟨a, v, hx, hf⟩ := ih _ h
    exact ⟨a, v, .ask typed hx, hf⟩
  | seed next ih =>
    cases h with | seed n h =>
    obtain ⟨a, v, hx, hf⟩ := ih _ h
    exact ⟨a, v, .seed n hx, hf⟩

/-- The session asks for nothing but what files and folders hold. -/
def OnlyReads : Session α → Prop
  | done _ => True
  | read _ next => ∀ r, (next r).OnlyReads
  | list _ next => ∀ r, (next r).OnlyReads
  | holds _ next => ∀ r, (next r).OnlyReads
  | _ => False

namespace OnlyReads

theorem pure (a : α) : (Pure.pure a : Session α).OnlyReads := trivial

theorem bind (hx : x.OnlyReads) (hf : ∀ a, (f a).OnlyReads) : (x >>= f).OnlyReads := by
  change (x.bind f).OnlyReads
  induction x with
  | done a => exact hf a
  | read path next ih => exact fun r => ih r (hx r)
  | list path next ih => exact fun r => ih r (hx r)
  | holds path next ih => exact fun r => ih r (hx r)
  | create | say | complain | ask | seed => exact hx.elim

/-- What only reads has one answer, and the world stays as it is. -/
theorem run_eq (hx : x.OnlyReads) (h : x.Ends w a w') : x.run w = (a, w') ∧ w' = w := by
  induction h with
  | done => exact ⟨rfl, rfl⟩
  | read _ ih => exact ih (hx _)
  | list _ ih => exact ih (hx _)
  | holds _ ih => exact ih (hx _)
  | made | refused | say | complain | ask | seed => exact hx.elim

end OnlyReads

end ProseScript.Session
