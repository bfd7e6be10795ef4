import ProseScript.Proofs.Program.Occurs
import ProseScript.Proofs.Run.Frame
import ProseScript.Proofs.Store.Locate
import ProseScript.Run

/-!
What commands blame. Main statement: a fault of a command carries the line that the command stands
on, or a line in the body of its block, and is never about how blocks nest.
-/

namespace ProseScript

namespace Fault

/-- The fault carries a line, under a command word, and is not about how blocks nest. -/
structure RaisedOn (l : Line) (command : String) (f : Fault) : Prop where
  command_eq : f.command = command
  line_eq : f.line = l.number
  text_eq : f.text = l.text
  matched : f.kind ≠ .unmatchedCloser
  closed : f.kind ≠ .unclosedBlock

/-- The fault carries a line, under a command word, and is of one of the given kinds. -/
structure Raised (kinds : List FaultKind) (l : Line) (command : String) (f : Fault) : Prop where
  command_eq : f.command = command
  line_eq : f.line = l.number
  text_eq : f.text = l.text
  kind_mem : f.kind ∈ kinds

variable {kinds : List FaultKind} {l : Line} {command : String} {f : Fault}

theorem Raised.mono (h : f.Raised kinds l command) {kinds' : List FaultKind} (hsub : kinds ⊆ kinds') :
    f.Raised kinds' l command :=
  ⟨h.command_eq, h.line_eq, h.text_eq, hsub h.kind_mem⟩

theorem Raised.kind_ne (h : f.Raised kinds l command) {kind : FaultKind} (hkind : kind ∉ kinds) :
    f.kind ≠ kind := by
  intro heq
  exact hkind (heq ▸ h.kind_mem)

theorem Raised.raisedOn (h : f.Raised kinds l command) (hmatched : .unmatchedCloser ∉ kinds)
    (hclosed : .unclosedBlock ∉ kinds) : f.RaisedOn l command :=
  ⟨h.command_eq, h.line_eq, h.text_eq, h.kind_ne hmatched, h.kind_ne hclosed⟩

@[simp] theorem raised_on {kind : FaultKind} (message : String) :
    (on l kind message).Raised kinds l l.keyword ↔ kind ∈ kinds :=
  ⟨fun h => h.kind_mem, fun h => ⟨rfl, rfl, rfl, h⟩⟩

@[simp] theorem raised_expecting (expected : String) :
    (f.expecting expected).Raised kinds l command ↔ f.Raised kinds l command :=
  ⟨fun h => ⟨h.1, h.2, h.3, h.4⟩, fun h => ⟨h.1, h.2, h.3, h.4⟩⟩

@[simp] theorem raised_given (actual : String) :
    (f.given actual).Raised kinds l command ↔ f.Raised kinds l command :=
  ⟨fun h => ⟨h.1, h.2, h.3, h.4⟩, fun h => ⟨h.1, h.2, h.3, h.4⟩⟩

@[simp] theorem raised_inCommand (h : f.Raised kinds l l.keyword) (command : String) :
    (f.inCommand command).Raised kinds l command :=
  ⟨rfl, h.line_eq, h.text_eq, h.kind_mem⟩

@[simp] theorem raised_parameterCount (expected : String) (count : Nat) :
    (parameterCount l expected count).Raised kinds l l.keyword ↔ .parameterCount ∈ kinds := by
  simp [parameterCount]

@[simp] theorem raised_parameterValue (expected actual : String) :
    (parameterValue l expected actual).Raised kinds l l.keyword ↔ .parameterValue ∈ kinds := by
  simp [parameterValue]

@[simp] theorem raised_malformed (expected : String) :
    (malformed l expected).Raised kinds l l.keyword ↔ .malformed ∈ kinds := by
  simp [malformed]

@[simp] theorem raised_unknownVariable (name : String) :
    (unknownVariable l name).Raised kinds l l.keyword ↔ .unknownVariable ∈ kinds := by
  simp [unknownVariable]

@[simp] theorem raised_typeMismatch (name expected actual : String) :
    (typeMismatch l name expected actual).Raised kinds l l.keyword ↔ .typeMismatch ∈ kinds := by
  simp [typeMismatch]

@[simp] theorem raised_unknownCommand :
    (unknownCommand l).Raised kinds l l.keyword ↔ .unknownCommand ∈ kinds := by
  simp [unknownCommand]

end Fault

def Fault.ToldBy (n : Node) (f : Fault) : Prop :=
  ∃ l command, n.Tells l command ∧ f.RaisedOn l command

/-- Every fault that a computation ends with has the property `P`. -/
def Faults {α : Type} (P : Fault → Prop) (x : Except Fault α) : Prop := ∀ f, x = .error f → P f

/-- Every fault that a computation ends with is of one of the kinds and carries the line, under the
line's own command word. -/
abbrev Blames {α : Type} (kinds : List FaultKind) (l : Line) (x : Except Fault α) : Prop :=
  Faults (Fault.Raised kinds l l.keyword) x

namespace Faults

variable {α β : Type} {P : Fault → Prop} {x : Except Fault α}

@[simp] theorem ok (a : α) : Faults P (.ok a) := by
  intro f hf
  simp at hf

@[simp] theorem error_iff {f : Fault} : Faults P (.error f : Except Fault α) ↔ P f := by
  simp [Faults]

theorem bind {g : α → Except Fault β} (hx : Faults P x) (hg : ∀ a, Faults P (g a)) :
    Faults P (x >>= g) := by
  cases x with
  | ok a => exact hg a
  | error f => exact error_iff.2 (error_iff.1 hx)

theorem map (hx : Faults P x) (g : α → β) : Faults P (x.map g) := by
  cases x with
  | ok a => exact ok (g a)
  | error f => exact error_iff.2 (error_iff.1 hx)

theorem imp {Q : Fault → Prop} (hx : Faults P x) (hPQ : ∀ f, P f → Q f) : Faults Q x := by
  intro f hf
  exact hPQ f (hx f hf)

theorem mapM {g : α → Except Fault β} (hg : ∀ a, Faults P (g a)) (xs : List α) :
    Faults P (xs.mapM g) := by
  induction xs with
  | nil => exact ok []
  | cons a rest ih =>
    rw [List.mapM_cons]
    refine (hg a).bind fun b => ?_
    exact ih.bind fun bs => ok (b :: bs)

end Faults

/-- The kinds of fault over the parameters of a command and the values that they name. -/
abbrev FaultKind.overParameters : List FaultKind :=
  [.parameterCount, .parameterValue, .malformed, .unknownVariable, .typeMismatch, .unknownGender,
    .emptySource]

open FaultKind (overParameters)

namespace Expression

variable (l : Line) (s : Store)

theorem faults_viewOf (term : String) : Blames overParameters l (viewOf l s term) := by
  unfold viewOf
  split <;> simp

theorem faults_listTerm (allowed term : String) :
    Blames overParameters l (listTerm allowed l s term) := by
  have hview := faults_viewOf l s term
  unfold listTerm
  split
  · simp
  · split <;> simp_all

theorem faults_catalogTerm (term : String) : Blames overParameters l (catalogTerm l s term) := by
  have hview := faults_viewOf l s term
  unfold catalogTerm
  split
  · simp
  · split <;> simp_all

theorem faults_groupTerm (term : String) : Blames overParameters l (groupTerm l s term) := by
  have hview := faults_viewOf l s term
  unfold groupTerm
  split
  · simp
  · split <;> simp_all

/-- Combining terms adds no fault to those of the terms. -/
theorem faults_combine {α β : Type} {P : Fault → Prop} {resolve : String → Except Fault β}
    (h : ∀ term, Faults P (resolve term)) (plus minus : α → β → α) (acc : α)
    (terms : List (Sign × String)) : Faults P (combine resolve plus minus acc terms) := by
  induction terms generalizing acc with
  | nil => simp [combine]
  | cons first rest ih =>
    obtain ⟨sign, term⟩ := first
    have hterm := h term
    rw [combine]
    split
    · simp_all
    · cases sign with
      | plus => exact ih _
      | minus => exact ih _

theorem faults_wordJoin (rhs : String) : Blames overParameters l (wordJoin rhs l s) := by
  simp only [wordJoin]
  split
  · simp
  · exact (Faults.mapM (faults_listTerm l s _) _).map _

theorem faults_mapCase (change : String → String) (rhs : String) :
    Blames overParameters l (mapCase change rhs l s) :=
  (faults_listTerm l s _ _).map _

theorem faults_select (style : Style) (name : String) (amount : Amount) (c : Chance) :
    Blames overParameters l (select style name amount l s c).1 := by
  have hview := faults_viewOf l s name
  simp only [select]
  split
  · simp
  · split
    · simp_all
    · split <;> simp

theorem faults_evaluateFixed (style : Style) (rhs : String) :
    Blames overParameters l (evaluateFixed style rhs l s) := by
  cases style with
  | list => exact (faults_combine (faults_listTerm l s _) _ _ _ _).map _
  | catalog => exact (faults_combine (faults_catalogTerm l s) _ _ _ _).map _
  | group => exact (faults_combine (faults_groupTerm l s) _ _ _ _).map _
  | join => exact (faults_wordJoin l s rhs).map _
  | _ => exact (faults_mapCase l s _ rhs).map _

theorem faults_evaluate (style : Style) (rhs : String) (c : Chance) :
    Blames overParameters l (evaluate style rhs l s c).1 := by
  unfold evaluate
  split
  · exact faults_select l s style _ _ c
  · exact faults_evaluateFixed l s style rhs

end Expression

/-- A value is refused for its kind only. -/
theorem Store.raised_of_assign {s : Store} {name : String} {v : Value} {e : StoreFault}
    (h : s.assign name v = .error e) (l : Line) :
    (e.toFault l name).Raised [.typeMismatch] l l.keyword := by
  rw [((s.assign_eq_error_iff name v e).1 h).2]
  simp [StoreFault.toFault]

theorem Store.faults_assignAll (l : Line) (v : Value) (names : List String) (s : Store) {f : Fault}
    (h : (s.assignAll l v names).2 = some f) : f.Raised overParameters l l.keyword := by
  induction names generalizing s with
  | nil => simp [assignAll] at h
  | cons name rest ih =>
    simp only [assignAll] at h
    split at h
    · exact ih _ h
    · next hrefused =>
      rw [← Option.some.inj h]
      exact (raised_of_assign hrefused l).mono (by simp)

theorem Expression.faults_assign (l : Line) (s : Store) {style : Style} {c : Chance} {f : Fault}
    (h : (assign style l s c).1.2 = some f) : f.Raised overParameters l l.keyword := by
  simp only [assign] at h
  split at h
  · rw [← Option.some.inj h]
    simp
  · next lhs rhs _ =>
    have hvalue := faults_evaluate l s style rhs c
    split at h
    · next fault _ hfault =>
      rw [hfault] at hvalue
      rw [← Option.some.inj h]
      simpa using hvalue
    · exact Store.faults_assignAll l _ _ _ h

namespace Run

variable (l : Line) (s : State)

theorem faults_assign (style : Style) : Blames overParameters l (assign style l s) := by
  unfold assign
  split
  · simp
  · next fault _ hassign =>
    have hfault : (Expression.assign style l s.store s.chance).1.2 = some fault := by rw [hassign]
    simpa using Expression.faults_assign l s.store hfault

/-- A format that can be read is set; one that cannot is the only reason for a fault of its own. -/
theorem faults_setFormat :
    Faults (fun f => f.Raised overParameters l l.keyword ∨
      f.Raised [.unknownFormatCode] l l.keyword ∧
        ∃ codes e, l.paramWords = [codes] ∧ Format.ofText codes = .error e) (setFormat l s) := by
  unfold setFormat
  split
  · next codes hcodes =>
    split
    · simp
    · next e he =>
      refine Faults.error_iff.2 (.inr ⟨by simp, codes, e, hcodes, he⟩)
  · simp

theorem faults_writeFixed (code : FormatCode) (sentence : String) :
    Blames overParameters l (writeFixed l code sentence s) := by
  unfold writeFixed
  split <;> simp

theorem faults_display : Blames overParameters l (display l s) := by
  simp only [display]
  split
  · simp
  · split
    · simp
    split
    · simp
    · split <;> simp
  · simp

theorem faults_shiftGroup (name : String) (offset : Int) :
    Blames overParameters l (shiftGroup l name offset s) := by
  simp only [shiftGroup, insideGroup]
  split
  · simp
  split
  · simp
  · split <;> simp

theorem faults_shift : Blames overParameters l (shift l s) := by
  unfold shift
  split
  · exact faults_shiftGroup l s _ _
  · split
    · simp
    · exact faults_shiftGroup l s _ _
  · simp

theorem faults_shuffle : Blames overParameters l (shuffle l s) := by
  simp only [shuffle, insideGroup]
  split
  · split
    · simp
    · split <;> simp
  · simp

theorem faults_setGenderFields (items targets : List String) (g : Genders) :
    Blames overParameters l (setGenderFields l items targets g) := by
  induction targets generalizing g with
  | nil => simp [setGenderFields]
  | cons word rest ih =>
    simp only [setGenderFields]
    split
    · simp
    · split
      · exact ih _
      · simp
      · simp

theorem faults_refGender : Blames overParameters l (refGender l s) := by
  simp only [refGender]
  split
  · simp
  split
  · split
    · simp
    · exact (faults_setGenderFields l _ _ _).map _
    · simp
  · simp

theorem faults_reciteLast (opening : String) (all : Bool) (terms : List String) :
    Blames overParameters l (reciteLast l opening all terms) := by
  unfold reciteLast
  split
  · simp
  · split <;> simp

theorem faults_reciteOptions (terms : List String) :
    Blames overParameters l (reciteOptions l terms) := by
  unfold reciteOptions
  split
  · simp
  · split
    · exact faults_reciteLast l _ _ _
    · split
      · exact faults_reciteLast l _ _ _
      · simp

theorem faults_recite : Blames overParameters l (recite l s) := by
  simp only [recite]
  split
  · simp
  · next lhs rhs _ =>
    split
    · simp
    split
    · next hoptions => simpa using faults_reciteOptions l _ _ hoptions
    split
    · simp
    · split
      · simp
      · next hstored =>
        simpa using Store.faults_assignAll l _ _ _ (congrArg Prod.snd hstored)
    · simp

/-- Only an unreadable format, and a command that is run in another way, is a fault of a kind of its
own. -/
theorem faults_simple (c : Command) :
    Faults (fun f => f.Raised overParameters l l.keyword ∨
      (f.Raised [.unknownFormatCode] l l.keyword ∧ c = .format ∧
        ∃ codes e, l.paramWords = [codes] ∧ Format.ofText codes = .error e) ∨
      (f.Raised [.unknownCommand] l l.keyword ∧
        (c = .write ∨ c = .call ∨ c.isStructural = true))) (simple c l s) := by
  unfold simple
  split
  · exact (faults_assign l s _).imp fun _ => .inl
  · next hstyle =>
    cases c with
    | display => exact (faults_display l s).imp fun _ => .inl
    | format =>
      refine (faults_setFormat l s).imp ?_
      rintro f (hf | ⟨hf, hcodes⟩)
      · exact .inl hf
      · exact .inr (.inl ⟨hf, rfl, hcodes⟩)
    | newLine => exact (faults_writeFixed l s _ _).imp fun _ => .inl
    | newPara => exact (faults_writeFixed l s _ _).imp fun _ => .inl
    | newChapter => exact (faults_writeFixed l _ _ _).imp fun _ => .inl
    | refGender => exact (faults_refGender l s).imp fun _ => .inl
    | recite => exact (faults_recite l s).imp fun _ => .inl
    | shift => exact (faults_shift l s).imp fun _ => .inl
    | shuffle => exact (faults_shuffle l s).imp fun _ => .inl
    | _ => simp_all [Style.ofCommand?, Command.isStructural]

theorem faults_writeWords (name : String) : Blames overParameters l (writeWords l s name) := by
  unfold writeWords
  split
  · simp
  · split
    · simp
    · split <;> simp

theorem faults_writeSentences (name : String) :
    Blames overParameters l (writeSentences l s name) := by
  unfold writeSentences
  split
  · simp
  · split
    · simp
    · split <;> simp

theorem faults_writeAmount (c : Chance) (text : Option String) :
    Blames overParameters l (writeAmount l c text) := by
  unfold writeAmount
  split
  · simp
  · split <;> simp

theorem faults_writeOrder (text : Option String) :
    Blames overParameters l (writeOrder l text) := by
  simp only [writeOrder]
  split
  · simp
  · split
    · simp
    · split <;> simp

theorem faults_writePlan : Blames overParameters l (writePlan l s) := by
  unfold writePlan
  split
  · split
    · simp
    · refine (faults_writeWords l s _).bind fun words => ?_
      refine (faults_writeSentences l s _).bind fun sentences => ?_
      refine (faults_writeAmount l _ _).bind fun amount => ?_
      exact (faults_writeOrder l _).bind fun ordered => .ok _
  · simp

theorem raised_of_writeOne {p : WritePlan} {x : Nat × State} {f : Fault} {shown : Array String}
    (h : writeOne l p x = .failed f shown) : f.Raised overParameters l l.keyword := by
  simp only [writeOne] at h
  split at h
  · obtain ⟨rfl, -⟩ := Outcome.failed.inj h
    simp
  · simp at h

theorem raised_of_write {limit : Nat} {f : Fault} {shown : Array String}
    (h : write limit l s = .failed f shown) : f.Raised overParameters l l.keyword := by
  rcases cases_of_write_failed h with hplan | ⟨p, chance, k, x, -, -, hone⟩
  · exact faults_writePlan l s f hplan
  · exact raised_of_writeOne l hone

theorem faults_fieldCount (c : Chance) (text : String) :
    Faults (Fault.Raised [.parameterValue] l "GEN") (fieldCount l c text) := by
  simp only [fieldCount]
  split
  · simp
  · split <;> simp

theorem faults_wantsDistinct (flag : Option String) :
    Faults (Fault.Raised [.parameterValue] l "GEN") (wantsDistinct l flag) := by
  unfold wantsDistinct
  split
  · simp
  · split <;> simp

theorem faults_fieldSource (name : String) :
    Faults (Fault.Raised [.unknownVariable, .typeMismatch] l "GEN") (fieldSource l s name) := by
  unfold fieldSource
  split <;> simp

/-- The faults of a field line. It fails over the number of its words only if it has not three or
four of them. -/
def FieldFault (l : Line) (f : Fault) : Prop :=
  f.Raised [.parameterValue, .unknownVariable, .typeMismatch] l "GEN" ∨
    f.Raised [.parameterCount] l "GEN" ∧ l.isIdle = false ∧
      ¬ (3 ≤ (Text.words l.text).length ∧ (Text.words l.text).length ≤ 4)

theorem FieldFault.raised {l : Line} {f : Fault} (h : FieldFault l f) :
    f.Raised overParameters l "GEN" := by
  rcases h with h | ⟨h, -⟩
  · exact h.mono (by simp)
  · exact h.mono (by simp)

theorem faults_fillField (members : List Entity) :
    Faults (FieldFault l) (fillField l members s) := by
  have hvalue (f : Fault) (hf : f.Raised [.parameterValue] l "GEN") : FieldFault l f :=
    .inl (hf.mono (by simp))
  have hsource (f : Fault) (hf : f.Raised [.unknownVariable, .typeMismatch] l "GEN") :
      FieldFault l f :=
    .inl (hf.mono (by simp))
  simp only [fillField]
  split
  · simp
  next hidle =>
  split
  · next flags hwords =>
    split
    · next hflags =>
      refine Faults.error_iff.2 (.inr ⟨by simp, by simpa using hidle, ?_⟩)
      simp only [hwords, List.length_cons]
      omega
    · refine ((faults_fieldCount l _ _).imp hvalue).bind fun counted => ?_
      refine ((faults_wantsDistinct l _).imp hvalue).bind fun distinct => ?_
      exact ((faults_fieldSource l _ _).imp hsource).bind fun source => .ok _
  · next hshort =>
    refine Faults.error_iff.2 (.inr ⟨by simp, by simpa using hidle, ?_⟩)
    rintro ⟨hthree, -⟩
    obtain ⟨a, b, c, rest, hwords⟩ : ∃ a b c rest, Text.words l.text = a :: b :: c :: rest := by
      rcases hwords : Text.words l.text with _ | ⟨a, _ | ⟨b, _ | ⟨c, rest⟩⟩⟩
      · simp [hwords] at hthree
      · simp [hwords] at hthree
      · simp [hwords] at hthree
      · exact ⟨a, b, c, rest, rfl⟩
    exact hshort a b c rest hwords

/-- The faults of a node in the body of a `GEN` block, where blocks have no place. -/
def BodyFault : Node → Fault → Prop
  | .line l, f => FieldFault l f
  | .block _ opener _ _, f => f.Raised [.nestedBlock] opener "GEN"

theorem BodyFault.raisedOn {n : Node} {f : Fault} (h : BodyFault n f) :
    f.RaisedOn n.firstLine "GEN" := by
  cases n with
  | line l => exact (FieldFault.raised h).raisedOn (by simp) (by simp)
  | block kind opener body closer => exact Fault.Raised.raisedOn h (by simp) (by simp)

theorem faults_fillFields (ns : List Node) (members : List Entity) :
    Faults (fun f => ∃ n ∈ ns, BodyFault n f) (fillFields ns members s) := by
  induction ns generalizing members s with
  | nil => simp [fillFields]
  | cons n rest ih =>
    cases n with
    | line l =>
      simp only [fillFields]
      split
      · refine (ih _ _).imp ?_
        rintro f ⟨n, hn, hf⟩
        exact ⟨n, List.mem_cons_of_mem _ hn, hf⟩
      · next f hfault =>
        have hf : BodyFault (.line l) f := faults_fillField l _ _ f hfault
        exact Faults.error_iff.2 ⟨.line l, List.mem_cons_self, hf⟩
    | block kind opener body closer =>
      refine Faults.error_iff.2 ⟨.block kind opener body closer, List.mem_cons_self, ?_⟩
      simp [BodyFault]

theorem faults_memberCount (c : Chance) (text : Option String) :
    Blames [.malformed, .parameterValue] l (memberCount l c text) := by
  simp only [memberCount]
  split
  · simp
  · split
    · simp
    · split <;> simp

theorem faults_newMembers (genders : Genders) (n : Nat) (c : Chance) (word : Option String) :
    Blames [.unknownGender] l (newMembers l genders n c word) := by
  simp only [newMembers]
  split
  · simp
  · split <;> simp

theorem faults_storeGroup (name : String) (members : List Entity) (s : Store) :
    Blames [.typeMismatch] l (storeGroup l name members s) := by
  unfold storeGroup
  split
  · next hrefused => exact Faults.error_iff.2 (Store.raised_of_assign hrefused l)
  · split <;> simp

/-- The kinds of fault that the opener of a `GEN` block is blamed for. -/
abbrev genKinds : List FaultKind :=
  [.parameterCount, .malformed, .parameterValue, .unknownGender, .typeMismatch]

theorem faults_generate (body : List Node) :
    Faults (fun f => f.Raised genKinds l l.keyword ∨ ∃ n ∈ body, BodyFault n f)
      (generate l body s) := by
  have hown {kinds : List FaultKind} (hsub : kinds ⊆ genKinds) (f : Fault)
      (hf : f.Raised kinds l l.keyword) :
      f.Raised genKinds l l.keyword ∨ ∃ n ∈ body, BodyFault n f :=
    .inl (hf.mono hsub)
  simp only [generate]
  split
  · simp
  split
  · simp
  split
  · simp
  · refine ((faults_memberCount l _ _).imp (hown (by simp))).bind fun counted => ?_
    refine ((faults_newMembers l _ _ _ _).imp (hown (by simp))).bind fun made => ?_
    refine ((faults_fillFields _ body made.1).imp fun _ => .inr).bind fun filled => ?_
    exact ((faults_storeGroup l _ _ _).imp (hown (by simp))).bind fun store => .ok _

theorem faults_namedCount (name : String) :
    Blames [.parameterCount, .parameterValue, .malformed] l (namedCount l s name) := by
  unfold namedCount
  split
  · split <;> simp
  · simp
  · simp

theorem faults_loopAmount :
    Blames [.parameterCount, .parameterValue, .malformed] l (loopAmount l s) := by
  unfold loopAmount
  split
  · simp
  · split
    · simp
    · exact (faults_namedCount l s _).map _
  · simp

theorem faults_loopTarget :
    Blames [.parameterCount, .parameterValue, .malformed] l (loopTarget l s) := by
  unfold loopTarget
  split
  · next hfault => simpa using faults_loopAmount l s _ hfault
  · split <;> simp

theorem faults_storeSnippet (body : List Node) :
    Blames [.parameterCount] l (storeSnippet l body s) := by
  unfold storeSnippet
  split <;> simp

theorem faults_calledBody : Blames [.parameterCount, .unknownVariable] l (calledBody l s) := by
  simp only [calledBody]
  split
  · split <;> simp
  · simp

end Run

end ProseScript
