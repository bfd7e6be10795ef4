import ProseScript.Proofs.Program.Occurs
import ProseScript.Proofs.Run.Frame

/-!
What commands warn of. Main statement: a command adds warnings after the earlier ones, and each of
them carries the line that the command stands on, or a line in the body of its block.
-/

namespace ProseScript

def Warning.RaisedOn (l : Line) (command : String) (w : Warning) : Prop :=
  w.command = some command ∧ w.line = some l.number ∧ w.text = some l.text

def Warning.ToldBy (n : Node) (w : Warning) : Prop :=
  ∃ l command, n.Tells l command ∧ w.RaisedOn l command

theorem Warning.raisedOn_on (w : Warning) (l : Line) : (w.on l).RaisedOn l l.keyword :=
  ⟨rfl, rfl, rfl⟩

namespace Run

/-- The second state has the warnings of the first and further ones with the property `P`. -/
def Warned (P : Warning → Prop) (s t : State) : Prop :=
  ∃ ws, t.warnings.toList = s.warnings.toList ++ ws ∧ ∀ w ∈ ws, P w

namespace Warned

variable {P : Warning → Prop} {s t u : State}

theorem of_eq (h : t.warnings = s.warnings) : Warned P s t := ⟨[], by simp [h], by simp⟩

theorem trans (hst : Warned P s t) (htu : Warned P t u) : Warned P s u := by
  obtain ⟨ws, hws, hP⟩ := hst
  obtain ⟨ws', hws', hP'⟩ := htu
  refine ⟨ws ++ ws', by rw [hws', hws, List.append_assoc], ?_⟩
  intro w hw
  rcases List.mem_append.1 hw with hw | hw
  · exact hP w hw
  · exact hP' w hw

theorem imp {Q : Warning → Prop} (h : Warned P s t) (hPQ : ∀ w, P w → Q w) : Warned Q s t := by
  obtain ⟨ws, hws, hP⟩ := h
  exact ⟨ws, hws, fun w hw => hPQ w (hP w hw)⟩

theorem warn {w : Warning} (hw : P w) (s : State) : Warned P s (s.warn w) :=
  ⟨[w], by simp [State.warn], by simpa using hw⟩

theorem ite_warn {w : Warning} (hw : P w) (p : Bool) (s : State) :
    Warned P s (if p then s.warn w else s) := by
  cases p with
  | false => exact of_eq rfl
  | true => exact warn hw s

theorem congr (h : Warned P s t) (hu : u.warnings = t.warnings) : Warned P s u :=
  h.trans (of_eq hu)

theorem forall_mem (h : Warned P s t) (hs : ∀ w ∈ s.warnings.toList, P w) :
    ∀ w ∈ t.warnings.toList, P w := by
  obtain ⟨ws, hws, hP⟩ := h
  intro w hw
  rw [hws] at hw
  rcases List.mem_append.1 hw with hw | hw
  · exact hs w hw
  · exact hP w hw

theorem isPrefix (h : Warned P s t) : s.warnings.toList <+: t.warnings.toList := by
  obtain ⟨ws, hws, -⟩ := h
  exact ⟨ws, hws.symm⟩

end Warned

variable {l : Line} {s t : State}

theorem warned_display (h : display l s = .ok t) : Warned (Warning.RaisedOn l l.keyword) s t := by
  simp only [display] at h
  split at h
  · exact Except.ok.inj h ▸ .of_eq rfl
  · split at h
    · simp at h
    split at h
    · rw [← Except.ok.inj h]
      exact (Warned.warn (Warning.raisedOn_on _ l) s).congr rfl
    · split at h <;> exact Except.ok.inj h ▸ .of_eq rfl
  · simp at h

theorem warned_recite (h : recite l s = .ok t) : Warned (Warning.RaisedOn l l.keyword) s t := by
  obtain ⟨empty, name, item, lhs, rhs, -, -, ht⟩ := parts_of_recite h
  rw [ht]
  exact (Warned.ite_warn (Warning.raisedOn_on _ l) empty s).congr rfl

theorem warned_shiftGroup {name : String} {offset : Int} (h : shiftGroup l name offset s = .ok t) :
    Warned (Warning.RaisedOn l l.keyword) s t := by
  obtain ⟨g, g', -, -, rfl⟩ | ⟨warning, rfl⟩ := cases_of_shiftGroup h
  · exact .of_eq rfl
  · exact .warn (Warning.raisedOn_on warning l) s

theorem warned_shift (h : shift l s = .ok t) : Warned (Warning.RaisedOn l l.keyword) s t := by
  unfold shift at h
  split at h
  · exact warned_shiftGroup h
  · split at h
    · simp at h
    · exact warned_shiftGroup h
  · simp at h

theorem warned_simple {c : Command} (h : simple c l s = .ok t) :
    Warned (Warning.RaisedOn l l.keyword) s t := by
  unfold simple at h
  split at h
  · exact .of_eq (by rw [frame_assign h])
  cases c with
  | display => exact warned_display h
  | format => exact .of_eq (by rw [frame_setFormat h])
  | newLine => exact .of_eq (by rw [frame_writeFixed h])
  | newPara => exact .of_eq (by rw [frame_writeFixed h])
  | newChapter => exact .of_eq (by rw [frame_newChapter h])
  | refGender => exact .of_eq (by rw [frame_refGender h])
  | recite => exact warned_recite h
  | shift => exact warned_shift h
  | shuffle => exact .of_eq (by rw [frame_shuffle h])
  | _ => simp at h

theorem warned_writeOne {p : WritePlan} {x y : Nat × State} (h : writeOne l p x = .finished y) :
    Warned (Warning.RaisedOn l l.keyword) x.2 y.2 := by
  obtain ⟨i, s⟩ := x
  simp only [writeOne] at h
  split at h
  · simp at h
  · rw [← Outcome.finished.inj h, State.warnAll_eq]
    refine ⟨_, Array.toList_append, ?_⟩
    intro w hw
    obtain ⟨miss, -, rfl⟩ := List.mem_map.1 hw
    exact Warning.raisedOn_on _ l

theorem warned_write {limit : Nat} (h : write limit l s = .finished t) :
    Warned (Warning.RaisedOn l l.keyword) s t := by
  obtain ⟨p, chance, k, i, -, -, hk⟩ := times_of_write h
  exact Outcome.rel_of_times
    (R := fun x y : Nat × State => Warned (Warning.RaisedOn l l.keyword) x.2 y.2)
    (fun _ => .of_eq rfl) (fun _ _ _ hxy hyz => hxy.trans hyz) (fun _ _ => warned_writeOne) hk

theorem warned_fillField {members members' : List Entity}
    (h : fillField l members s = .ok (members', t)) : Warned (Warning.RaisedOn l "GEN") s t := by
  obtain ⟨again, field, chance, rfl⟩ := eq_of_fillField h
  exact (Warned.ite_warn ⟨rfl, rfl, rfl⟩ again s).congr rfl

theorem warned_fillFields {ns : List Node} {members members' : List Entity}
    (h : fillFields ns members s = .ok (members', t)) :
    Warned (fun w => ∃ n ∈ ns, w.RaisedOn n.firstLine "GEN") s t := by
  refine rel_of_fillFields
    (R := fun x y => Warned (fun w => ∃ n ∈ ns, w.RaisedOn n.firstLine "GEN") x.2 y.2)
    (fun _ => .of_eq rfl) (fun _ _ _ hxy hyz => hxy.trans hyz) ?_ h
  intro l hl ms u ms' v hfield
  have hbegun : Warned (Warning.RaisedOn l "GEN") u { u with current := some l } := .of_eq rfl
  refine (hbegun.trans (warned_fillField hfield)).imp ?_
  intro w hw
  exact ⟨.line l, hl, hw⟩

theorem warned_generate {body : List Node} (closer : Line) (h : generate l body s = .ok t) :
    Warned (Warning.ToldBy (.block .gen l body closer)) s t := by
  obtain ⟨again, name, chance, made, members, u, -, hfill, -, ht⟩ := parts_of_generate h
  have hfilled : Warned _ _ u := warned_fillFields hfill
  have hkept : t.warnings = u.warnings := by rw [ht]
  refine (Warned.ite_warn ?_ again s).trans ((hfilled.imp ?_).congr hkept)
  · exact ⟨l, l.keyword, .own _, Warning.raisedOn_on _ l⟩
  · rintro w ⟨m, hm, hw⟩
    exact ⟨m.firstLine, "GEN", .field hm, hw⟩

end Run

end ProseScript
