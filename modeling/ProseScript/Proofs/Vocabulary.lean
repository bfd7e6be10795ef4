import Mathlib.Data.List.Nodup
import Mathlib.Data.List.TakeWhile
import ProseScript.Proofs.Files.Session
import ProseScript.Proofs.FirstOccurrence
import ProseScript.Proofs.Table
import ProseScript.Proofs.Text.Enclosed
import ProseScript.Proofs.Text.Lines
import ProseScript.Vocabulary

/-!
What a folder loads as. Main statement: the order in which a folder is listed does not matter. Its
catalog has the keys of the files with something in them, each with the lines of the last file of
that key in the order of names, and each other entry is warned of once.
-/

namespace ProseScript.Vocabulary

/-- The lines of a text that are not blank, without the blanks at their ends. -/
inductive InkLines (text : String) : List String → Prop
  | intro {lines trimmed : List (List Char)} (h : Text.IsLines text.toList lines)
      (htrimmed : List.Forall₂ Text.Trims lines trimmed) :
      InkLines text ((trimmed.filter fun line => !line.isEmpty).map String.ofList)

/-- The key of a file: the text of its name up to the first period, if any, in lower case. -/
inductive HasKey (name : FileName) : String → Prop
  | intro {stem rest : List Char} (htext : name.text? = some (String.ofList (stem ++ rest)))
      (hne : stem ≠ []) (hperiod : '.' ∉ stem) (hrest : rest = [] ∨ rest.head? = some '.') :
      HasKey name (Text.lower (String.ofList stem))

section Reading

theorem InkLines.eq {text : String} {ink ink' : List String} (h : InkLines text ink)
    (h' : InkLines text ink') : ink = ink' := by
  obtain ⟨hlines, htrimmed⟩ := h
  obtain ⟨hlines', htrimmed'⟩ := h'
  obtain rfl := (Text.linesFrom_eq_iff.2 hlines).symm.trans (Text.linesFrom_eq_iff.2 hlines')
  obtain rfl := (Text.map_trimChars_eq_iff.2 htrimmed).symm.trans
    (Text.map_trimChars_eq_iff.2 htrimmed')
  rfl

/-- The items of a text are its lines with ink, each once. -/
theorem exists_inkLines (text : String) :
    ∃ ink, InkLines text ink ∧ FirstOccurrences ink (items text) := by
  have hlines : Text.IsLines text.toList (Text.linesFrom [] text.toList) :=
    Text.linesFrom_eq_iff.1 rfl
  have htrimmed : (Text.lines text).map Text.trim =
      ((Text.linesFrom [] text.toList).map Text.trimChars).map String.ofList := by
    simp [Text.lines, Function.comp_def, Text.trim_ofList]
  have hblank : (fun line => !String.isEmpty line) ∘ String.ofList =
      fun line : List Char => !line.isEmpty := by
    funext line
    cases line <;> simp
  refine ⟨_, .intro hlines (Text.map_trimChars_eq_iff.1 rfl), ?_⟩
  rw [items, htrimmed, List.filter_map (f := String.ofList), hblank]
  exact firstOccurrences_eraseDups _

theorem items_eq_nil_iff {text : String} : items text = [] ↔ InkLines text [] := by
  obtain ⟨ink, hink, hitems⟩ := exists_inkLines text
  have hempty : items text = [] ↔ ink = [] := by
    simp only [List.eq_nil_iff_forall_not_mem, hitems.mem_iff]
  rw [hempty]
  constructor
  · rintro rfl
    exact hink
  · exact hink.eq

theorem setName?_eq_some_iff {name : FileName} {key : String} :
    setName? name = some key ↔ HasKey name key := by
  constructor
  · intro h
    obtain ⟨text, htext, hkey⟩ := Option.bind_eq_some_iff.1 h
    have hwhole := List.takeWhile_append_dropWhile (p := (· ≠ '.')) (l := text.toList)
    simp only at hkey
    split at hkey
    · cases hkey
    next hne =>
    obtain rfl := Option.some.inj hkey
    refine @HasKey.intro _ _ (text.toList.dropWhile (· ≠ '.')) ?_ (by simpa using hne) ?_ ?_
    · rw [hwhole, String.ofList_toList, htext]
    · intro hperiod
      simpa using List.mem_takeWhile_imp hperiod
    · cases hrest : text.toList.dropWhile (· ≠ '.') with
      | nil => exact .inl rfl
      | cons c rest =>
        have hc := List.head?_dropWhile_not (· ≠ '.') text.toList
        rw [hrest] at hc
        exact .inr (by simpa using hc)
  · intro ⟨htext, hne, hperiod, hrest⟩
    rename_i stem rest
    have hstem : ∀ c ∈ stem, decide (c ≠ '.') = true := by
      intro c hc
      exact decide_eq_true fun hdot => hperiod (hdot ▸ hc)
    have hafter : rest.takeWhile (· ≠ '.') = [] := by
      rcases hrest with rfl | hhead
      · rfl
      · obtain ⟨after, rfl⟩ := List.head?_eq_some_iff.1 hhead
        simp
    have hfront : (stem ++ rest).takeWhile (· ≠ '.') = stem := by
      rw [List.takeWhile_append_of_pos hstem, hafter, List.append_nil]
    simp only [setName?, htext, Option.bind_some, String.toList_ofList, hfront]
    simp [hne]

theorem setName?_eq_none_iff {name : FileName} :
    setName? name = none ↔ ∀ key, ¬ HasKey name key := by
  simp only [Option.eq_none_iff_forall_ne_some, ← setName?_eq_some_iff, ne_eq]

theorem HasKey.eq {name : FileName} {key key' : String} (h : HasKey name key)
    (h' : HasKey name key') : key = key' :=
  Option.some.inj ((setName?_eq_some_iff.2 h).symm.trans (setName?_eq_some_iff.2 h'))

end Reading

/-- The entry is a file with text under a key. `text` gives the texts of files. -/
structure Supplies (text : FileName → String) (e : FileName × EntryKind) (key : String) : Prop where
  file : e.2 = .file
  named : HasKey e.1 key
  inked : ¬ InkLines (text e.1) []

/-- The entry gives no list, for a reason. -/
inductive Skips (text : FileName → String) (e : FileName × EntryKind) : String → Prop
  | notAFile (h : e.2 ≠ .file) : Skips text e "not a regular file"
  | unnamed (hfile : e.2 = .file) (h : ∀ key, ¬ HasKey e.1 key) :
      Skips text e "no usable name before the first period"
  | blank {key : String} (hfile : e.2 = .file) (hname : HasKey e.1 key)
      (h : InkLines (text e.1) []) : Skips text e "file is empty"

/-- What loading the entries of a folder gives, whatever their order. -/
structure LoadsAs (text : FileName → String) (dir : String) (es : List (FileName × EntryKind))
    (loaded : Loaded) : Prop where
  contains_iff : ∀ key, loaded.1.contains key = true ↔ ∃ e ∈ es, Supplies text e key
  /-- A list comes from the last file of its key. -/
  last : ∀ key found, loaded.1.get? key = some found → ∃ e ∈ es, Supplies text e key ∧
    (∀ e' ∈ es, Supplies text e' key → e'.1 ≤ e.1) ∧
    ∃ ink, InkLines (text e.1) ink ∧ FirstOccurrences ink found
  nodup : loaded.1.keys.Nodup
  /-- The first file of a key comes before all files of later keys. -/
  in_order : loaded.1.keys.Pairwise fun key key' => ∃ e ∈ es, Supplies text e key ∧
    ∀ e' ∈ es, Supplies text e' key' → e.1 < e'.1
  warnings : ∃ skips : List (FileName × String), skips.Pairwise (fun a b => a.1 < b.1) ∧
    (∀ name reason, (name, reason) ∈ skips ↔
      ∃ kind, (name, kind) ∈ es ∧ Skips text (name, kind) reason) ∧
    loaded.2 = skips.map fun skip => skipped (Path.join dir skip.1.shown) skip.2

section Entries

variable {text : FileName → String} {dir : String} {e : FileName × EntryKind}

theorem Supplies.key_eq {key key' : String} (h : Supplies text e key) (h' : Supplies text e key') :
    key = key' :=
  h.named.eq h'.named

theorem Skips.not_supplies {reason key : String} (h : Skips text e reason) :
    ¬ Supplies text e key := by
  intro hs
  cases h with
  | notAFile h => exact h hs.file
  | unnamed _ h => exact h key hs.named
  | blank _ _ h => exact hs.inked h

theorem Skips.reason_eq {reason reason' : String} (h : Skips text e reason)
    (h' : Skips text e reason') : reason = reason' := by
  cases h with
  | notAFile hkind =>
    cases h' with
    | notAFile => rfl
    | unnamed hfile | blank hfile => exact absurd hfile hkind
  | unnamed hfile hnone =>
    cases h' with
    | notAFile hkind => exact absurd hfile hkind
    | unnamed => rfl
    | blank _ hkey => exact absurd hkey (hnone _)
  | blank hfile hkey =>
    cases h' with
    | notAFile hkind => exact absurd hfile hkind
    | unnamed _ hnone => exact absurd hkey (hnone _)
    | blank => rfl

/-- What stands under the name of an entry when its file is read. -/
def content (text : FileName → String) : FileName × EntryKind → FileName × Content
  | (name, .file) =>
      match setName? name with
      | none => (name, .unnamed)
      | some key => (name, .file key (.ok (text name)))
  | (name, _) => (name, .notAFile)

theorem loadEntry_cases (text : FileName → String) (dir : String) (loaded : Loaded)
    (e : FileName × EntryKind) :
    (∃ key, Supplies text e key ∧ loadEntry dir loaded (content text e) =
      .ok (loaded.1.insert key (items (text e.1)), loaded.2)) ∨
    ∃ reason, Skips text e reason ∧ loadEntry dir loaded (content text e) =
      .ok (loaded.1, loaded.2 ++ [skipped (Path.join dir e.1.shown) reason]) := by
  obtain ⟨name, kind⟩ := e
  cases kind with
  | directory | other => exact .inr ⟨_, .notAFile (by simp), rfl⟩
  | file =>
    cases hname : setName? name with
    | none =>
      have hcontent : content text (name, .file) = (name, .unnamed) := by simp only [content, hname]
      exact .inr ⟨_, .unnamed rfl (setName?_eq_none_iff.1 hname), by rw [hcontent]; rfl⟩
    | some key =>
      have hcontent : content text (name, .file) = (name, .file key (.ok (text name))) := by
        simp only [content, hname]
      have hkey : HasKey name key := setName?_eq_some_iff.1 hname
      rw [hcontent]
      by_cases hblank : InkLines (text name) []
      · have hitems : (items (text name)).isEmpty = true :=
          List.isEmpty_iff.2 (items_eq_nil_iff.2 hblank)
        exact .inr ⟨_, .blank rfl hkey hblank, by simp only [loadEntry, hitems, if_true]⟩
      · have hitems : ¬ (items (text name)).isEmpty = true := by
          rwa [List.isEmpty_iff, items_eq_nil_iff]
        exact .inl ⟨key, ⟨rfl, hkey, hblank⟩, by simp only [loadEntry, if_neg hitems]⟩

end Entries

namespace LoadsAs

variable {text : FileName → String} {dir : String} {es : List (FileName × EntryKind)} {loaded : Loaded}

theorem nil (text : FileName → String) (dir : String) : LoadsAs text dir [] (.empty, []) where
  contains_iff key := by simp [Table.contains]
  last key found h := by simp at h
  nodup := Table.nodup_empty
  in_order := .nil
  warnings := ⟨[], .nil, by simp, rfl⟩

/-- Only what the folder holds matters, in whatever order. -/
theorem perm (h : LoadsAs text dir es loaded) {es' : List (FileName × EntryKind)}
    (hperm : es.Perm es') : LoadsAs text dir es' loaded := by
  obtain ⟨hcontains, hlast, hnodup, horder, hwarnings⟩ := h
  simp only [hperm.mem_iff] at hcontains hlast horder hwarnings
  exact ⟨hcontains, hlast, hnodup, horder, hwarnings⟩

theorem ne_nil (h : LoadsAs text dir es loaded) {key : String} {found : List String}
    (hfound : loaded.1.get? key = some found) : found ≠ [] := by
  obtain ⟨e, -, hsupplies, -, ink, hink, hitems⟩ := h.last key found hfound
  have hne : ink ≠ [] := by
    rintro rfl
    exact hsupplies.inked hink
  obtain ⟨line, hline⟩ := List.exists_mem_of_ne_nil ink hne
  exact List.ne_nil_of_mem ((hitems.mem_iff line).2 hline)

section Step

variable {e : FileName × EntryKind}

theorem forall_mem_concat {p : FileName × EntryKind → Prop} :
    (∀ e' ∈ es ++ [e], p e') ↔ (∀ e' ∈ es, p e') ∧ p e := by
  rw [List.forall_mem_append, List.forall_mem_singleton]

theorem exists_mem_concat {p : FileName × EntryKind → Prop} :
    (∃ e' ∈ es ++ [e], p e') ↔ (∃ e' ∈ es, p e') ∨ p e := by
  simp only [List.mem_append, List.mem_singleton, or_and_right, exists_or, exists_eq_left]

variable (h : LoadsAs text dir es loaded)
include h

theorem contains_iff_concat_of_not {key : String} (hno : ¬ Supplies text e key) :
    loaded.1.contains key = true ↔ ∃ e' ∈ es ++ [e], Supplies text e' key := by
  rw [h.contains_iff, exists_mem_concat, or_iff_left hno]

/-- An entry that does not supply a key leaves its last file the last. -/
theorem last_concat_of_not {key : String} {found : List String} (hno : ¬ Supplies text e key)
    (hfound : loaded.1.get? key = some found) : ∃ e₀ ∈ es ++ [e], Supplies text e₀ key ∧
      (∀ e' ∈ es ++ [e], Supplies text e' key → e'.1 ≤ e₀.1) ∧
      ∃ ink, InkLines (text e₀.1) ink ∧ FirstOccurrences ink found := by
  obtain ⟨e₀, he₀, hsupplies, hmost, hitems⟩ := h.last key found hfound
  have hmost' := forall_mem_concat.2 ⟨hmost, fun hsupplies' => absurd hsupplies' hno⟩
  exact ⟨e₀, List.mem_append_left _ he₀, hsupplies, hmost', hitems⟩

variable (hlast : ∀ e' ∈ es, e'.1 < e.1)
include hlast

theorem in_order_concat : loaded.1.keys.Pairwise fun key key' =>
    ∃ e₀ ∈ es ++ [e], Supplies text e₀ key ∧
      ∀ e' ∈ es ++ [e], Supplies text e' key' → e₀.1 < e'.1 := by
  refine h.in_order.imp ?_
  intro key key' ⟨e₀, he₀, hsupplies, hbefore⟩
  exact ⟨e₀, List.mem_append_left _ he₀, hsupplies,
    forall_mem_concat.2 ⟨hbefore, fun _ => hlast e₀ he₀⟩⟩

theorem skip {reason : String} (hskips : Skips text e reason) :
    LoadsAs text dir (es ++ [e])
      (loaded.1, loaded.2 ++ [skipped (Path.join dir e.1.shown) reason]) where
  contains_iff key := h.contains_iff_concat_of_not hskips.not_supplies
  last key found := h.last_concat_of_not hskips.not_supplies
  nodup := h.nodup
  in_order := h.in_order_concat hlast
  warnings := by
    obtain ⟨skips, horder, hmem, hloaded⟩ := h.warnings
    refine ⟨skips ++ [(e.1, reason)], ?_, ?_, by simp [hloaded]⟩
    · refine List.pairwise_append.2 ⟨horder, List.pairwise_singleton .., ?_⟩
      intro skip hskip new hnew
      obtain ⟨kind, hentry, -⟩ := (hmem skip.1 skip.2).1 hskip
      exact List.mem_singleton.1 hnew ▸ hlast _ hentry
    · intro name reason'
      rw [List.mem_append, hmem, List.mem_singleton]
      constructor
      · rintro (⟨kind, hentry, hskips'⟩ | heq)
        · exact ⟨kind, List.mem_append_left _ hentry, hskips'⟩
        · obtain ⟨rfl, rfl⟩ := Prod.mk.inj heq
          exact ⟨e.2, by simp, hskips⟩
      · intro ⟨kind, hentry, hskips'⟩
        rcases List.mem_append.1 hentry with hold | hnew
        · exact .inl ⟨kind, hold, hskips'⟩
        · obtain rfl := List.mem_singleton.1 hnew
          exact .inr (by rw [hskips'.reason_eq hskips])

theorem supply {key : String} (hsupplies : Supplies text e key) :
    LoadsAs text dir (es ++ [e]) (loaded.1.insert key (items (text e.1)), loaded.2) where
  contains_iff k := by
    rw [Table.contains_insert]
    by_cases hk : k = key
    · exact iff_of_true (.inl hk) ⟨e, by simp, hk ▸ hsupplies⟩
    · have hno : ¬ Supplies text e k := fun hs => hk (hs.key_eq hsupplies)
      rw [← h.contains_iff_concat_of_not hno]
      exact or_iff_right hk
  last k found hfound := by
    rw [Table.get?_insert] at hfound
    by_cases hk : k = key
    · rw [if_pos hk] at hfound
      obtain rfl := Option.some.inj hfound
      have hmost := forall_mem_concat.2
        ⟨fun e' he' (_ : Supplies text e' k) => Std.le_of_lt (hlast e' he'),
          fun _ => Std.le_refl e.1⟩
      exact ⟨e, by simp, hk ▸ hsupplies, hmost, exists_inkLines _⟩
    · rw [if_neg hk] at hfound
      exact h.last_concat_of_not (fun hs => hk (hs.key_eq hsupplies)) hfound
  nodup := Table.nodup_insert h.nodup key _
  in_order := by
    have hold := h.in_order_concat hlast
    rw [Table.keys_insert]
    split
    · exact hold
    · next hnew =>
      refine List.pairwise_append.2 ⟨hold, List.pairwise_singleton .., ?_⟩
      intro k hk k' hk'
      obtain rfl := List.mem_singleton.1 hk'
      obtain ⟨e₀, he₀, hsupplies₀⟩ := (h.contains_iff k).1 ((Table.contains_iff _ k).2 hk)
      refine ⟨e₀, List.mem_append_left _ he₀, hsupplies₀,
        forall_mem_concat.2 ⟨?_, fun _ => hlast e₀ he₀⟩⟩
      intro e' he' hsupplies'
      exact absurd ((Table.contains_iff _ k').1 ((h.contains_iff k').2 ⟨e', he', hsupplies'⟩)) hnew
  warnings := by
    obtain ⟨skips, horder, hmem, hloaded⟩ := h.warnings
    refine ⟨skips, horder, ?_, hloaded⟩
    intro name reason
    rw [hmem]
    constructor
    · intro ⟨kind, hentry, hskips⟩
      exact ⟨kind, List.mem_append_left _ hentry, hskips⟩
    · intro ⟨kind, hentry, hskips⟩
      rcases List.mem_append.1 hentry with hold | hnew
      · exact ⟨kind, hold, hskips⟩
      · exact absurd (List.mem_singleton.1 hnew ▸ hsupplies) hskips.not_supplies

theorem step : ∃ loaded', loadEntry dir loaded (content text e) = .ok loaded' ∧
    LoadsAs text dir (es ++ [e]) loaded' := by
  rcases loadEntry_cases text dir loaded e with ⟨key, hsupplies, hload⟩ | ⟨reason, hskips, hload⟩
  · exact ⟨_, hload, h.supply hlast hsupplies⟩
  · exact ⟨_, hload, h.skip hlast hskips⟩

end Step

/-- Entries in the strict order of their names are taken in one after the other. -/
theorem run (h : LoadsAs text dir es loaded) {rest : List (FileName × EntryKind)}
    (horder : (es ++ rest).Pairwise fun a b => a.1 < b.1) :
    ∃ loaded', (rest.map (content text)).foldlM (loadEntry dir) loaded = .ok loaded' ∧
      LoadsAs text dir (es ++ rest) loaded' := by
  induction rest generalizing es loaded with
  | nil => exact ⟨loaded, rfl, by rwa [List.append_nil]⟩
  | cons e rest ih =>
    have hlast : ∀ e' ∈ es, e'.1 < e.1 := by
      intro e' he'
      exact (List.pairwise_append.1 horder).2.2 e' he' e List.mem_cons_self
    obtain ⟨loaded₁, hload, h₁⟩ := h.step hlast
    rw [List.append_cons] at horder ⊢
    obtain ⟨loaded₂, hrest, h₂⟩ := ih h₁ horder
    exact ⟨loaded₂, by rw [List.map_cons, List.foldlM_cons, hload]; exact hrest, h₂⟩

end LoadsAs

section Order

variable {α : Type}

theorem perm_inNameOrder (entries : List (FileName × α)) : (inNameOrder entries).Perm entries :=
  List.mergeSort_perm _ _

theorem pairwise_inNameOrder {entries : List (FileName × α)} (h : (entries.map Prod.fst).Nodup) :
    (inNameOrder entries).Pairwise fun a b => a.1 < b.1 := by
  have hweak : (inNameOrder entries).Pairwise fun a b => a.1 ≤ b.1 := by
    refine (List.pairwise_mergeSort ?_ ?_ entries).imp fun hab => of_decide_eq_true hab
    · intro a b c hab hbc
      exact decide_eq_true (Std.le_trans (of_decide_eq_true hab) (of_decide_eq_true hbc))
    · intro a b
      simpa using Std.le_total (a := a.1) (b := b.1)
  have hnodup : ((inNameOrder entries).map Prod.fst).Nodup :=
    ((perm_inNameOrder entries).map Prod.fst).nodup_iff.2 h
  have hdistinct : (inNameOrder entries).Pairwise fun a b => a.1 ≠ b.1 := List.pairwise_map.1 hnodup
  exact hweak.imp₂ (fun _ _ hle hne => Std.lt_of_le_of_ne hle hne) hdistinct

/-- Entries with different names have one order by name. -/
theorem inNameOrder_eq {entries sorted : List (FileName × α)} (hperm : entries.Perm sorted)
    (h : (entries.map Prod.fst).Nodup) (hsorted : sorted.Pairwise fun a b => a.1 < b.1) :
    inNameOrder entries = sorted := by
  refine List.Perm.eq_of_pairwise ?_ (pairwise_inNameOrder h) hsorted
    ((perm_inNameOrder entries).trans hperm)
  intro a b _ _ hab hba
  exact absurd hba (Std.not_gt_of_lt hab)

/-- It does not matter how they are listed. -/
theorem inNameOrder_eq_of_perm {entries entries' : List (FileName × α)}
    (hperm : entries.Perm entries') (h : (entries.map Prod.fst).Nodup) :
    inNameOrder entries = inNameOrder entries' := by
  have h' : (entries'.map Prod.fst).Nodup := (hperm.map Prod.fst).nodup_iff.1 h
  exact inNameOrder_eq (hperm.trans (perm_inNameOrder entries').symm) h (pairwise_inNameOrder h')

end Order

/-- A folder of a file tree: how it is listed, and the texts of its files. No path leads to a file
whose name is no text. -/
structure Holds (files : FileTree) (dir : String) (es : List (FileName × EntryKind))
    (text : FileName → String) : Prop where
  listed : files.list dir = .ok es
  readable : ∀ name path, (name, .file) ∈ es → name.text? = some path →
    files.read (Path.join dir path) = .ok (text name)

section Load

variable {text : FileName → String} {dir : String} {es : List (FileName × EntryKind)}

theorem run_readContents {w : Session.World}
    (h : ∀ name path, (name, .file) ∈ es → name.text? = some path →
      w.files.read (Path.join dir path) = .ok (text name)) :
    (readContents dir es).run w = (es.map (content text), w) := by
  induction es with
  | nil => rfl
  | cons e rest ih =>
    obtain ⟨name, kind⟩ := e
    have hrest := ih fun name path hname => h name path (List.mem_cons_of_mem _ hname)
    cases kind with
    | file =>
      cases hname : setName? name with
      | none => simp [readContents, hname, Session.run_bind, hrest, content]
      | some key =>
        obtain ⟨path, hpath, -⟩ := Option.bind_eq_some_iff.1 hname
        have hshown : name.shown = path := by rw [FileName.shown, hpath]; rfl
        have hread := h name path List.mem_cons_self hpath
        simp [readContents, hname, hshown, Session.run, hread, Session.run_bind, hrest, content]
    | directory => simp [readContents, Session.run_bind, hrest, content]
    | other => simp [readContents, Session.run_bind, hrest, content]

theorem content_fst (e : FileName × EntryKind) : (content text e).1 = e.1 := by
  unfold content
  split
  · split <;> rfl
  · rfl

theorem run_loadFolder {w : Session.World} (h : Holds w.files dir es text) :
    (loadFolder dir).run w =
      (((inNameOrder es).map (content text)).foldlM (loadEntry dir) (.empty, []), w) := by
  have hsort : inNameOrder (es.map (content text)) = (inNameOrder es).map (content text) :=
    (List.map_mergeSort (f := content text) fun _ _ _ _ => by simp only [content_fst]).symm
  simp [loadFolder, Session.run, h.listed, Session.run_bind, run_readContents h.readable,
    loadEntries, hsort]

/-- Loading a folder whose entries have different names and whose files can be read. In whatever
order they are listed it gives the same catalog and the same warnings. A key is there just when a
file with text has it, with the lines of the last such file, so no list is empty; the keys differ and
stand in the order of their first files; and of each other entry there is one mild warning, in the
order of names. -/
theorem folders_load_in_name_order {w w' : Session.World} {es' : List (FileName × EntryKind)}
    (hnames : (es.map Prod.fst).Nodup) (hperm : es.Perm es') (h : Holds w.files dir es text)
    (h' : Holds w'.files dir es' text) :
    ∃ loaded, ((loadFolder dir).run w).1 = .ok loaded ∧ ((loadFolder dir).run w').1 = .ok loaded ∧
      LoadsAs text dir es loaded ∧
      (∀ key found, loaded.1.get? key = some found → found ≠ [] ∧ found.Nodup) ∧
      ∀ warning ∈ loaded.2, warning.severity = .mild := by
  have horder : ([] ++ inNameOrder es : List (FileName × EntryKind)).Pairwise fun a b => a.1 < b.1 :=
    pairwise_inNameOrder hnames
  obtain ⟨loaded, hload, hsorted⟩ := (LoadsAs.nil text dir).run horder
  have hloads := hsorted.perm (perm_inNameOrder es)
  refine ⟨loaded, ?_, ?_, hloads, ?_, ?_⟩
  · rw [run_loadFolder h, hload]
  · rw [run_loadFolder h', ← inNameOrder_eq_of_perm hperm hnames, hload]
  · intro key found hfound
    obtain ⟨e, -, -, -, ink, -, hitems⟩ := hloads.last key found hfound
    exact ⟨hloads.ne_nil hfound, hitems.nodup⟩
  · intro warning hwarning
    obtain ⟨skips, -, -, hskips⟩ := hloads.warnings
    rw [hskips] at hwarning
    obtain ⟨skip, -, rfl⟩ := List.mem_map.1 hwarning
    rfl

end Load

/-- A folder with two files of one key, a blank file, a folder, and a file whose name is no text. -/
def nounEntries : List (FileName × EntryKind) :=
  [("noun.txt", .file), (⟨[0xFF]⟩, .file), ("Noun.md", .file), ("none", .file),
    ("verbs", .directory)]

def nounText (name : FileName) : String :=
  if name = "noun.txt" then "cat\r\n  dog \n\ncat" else if name = "Noun.md" then "owl" else " \n"

def nounTree (es : List (FileName × EntryKind)) : FileTree :=
  ⟨(["w"], .directory) :: es.map fun e =>
    (["w", e.1], if e.2 = .file then .text (nounText e.1) else .directory)⟩

def nounWorld (es : List (FileName × EntryKind)) : Session.World := ⟨nounTree es, [], "", "", 0⟩

theorem holds_nounWorld {es : List (FileName × EntryKind)} (hlist : (nounTree es).list "w" = .ok es)
    (hread : ∀ e ∈ es, e.2 = .file → ∀ path ∈ e.1.text?,
      (nounTree es).read (Path.join "w" path) = .ok (nounText e.1)) :
    Holds (nounWorld es).files "w" es nounText :=
  ⟨hlist, fun name path hname hpath => hread (name, .file) hname rfl path hpath⟩

theorem folders_load_in_name_order_nouns :
    let loaded : Loaded := (.ofEntries [("noun", ["cat", "dog"])],
      [skipped "w/none" "file is empty", skipped "w/verbs" "not a regular file",
        skipped "w/\uFFFD" "no usable name before the first period"])
    (nounEntries.map Prod.fst).Nodup ∧ nounEntries.Perm nounEntries.reverse ∧
    Holds (nounWorld nounEntries).files "w" nounEntries nounText ∧
    Holds (nounWorld nounEntries.reverse).files "w" nounEntries.reverse nounText ∧
    ((loadFolder "w").run (nounWorld nounEntries)).1 = .ok loaded ∧
    ((loadFolder "w").run (nounWorld nounEntries.reverse)).1 = .ok loaded ∧
    LoadsAs nounText "w" nounEntries loaded := by
  intro loaded
  have hnames : (nounEntries.map Prod.fst).Nodup := by decide
  have hperm : nounEntries.Perm nounEntries.reverse := (List.reverse_perm _).symm
  have h : Holds (nounWorld nounEntries).files "w" nounEntries nounText :=
    holds_nounWorld (by decide +kernel) (by decide +kernel)
  have h' : Holds (nounWorld nounEntries.reverse).files "w" nounEntries.reverse nounText :=
    holds_nounWorld (by decide +kernel) (by decide +kernel)
  have hsorted : inNameOrder nounEntries = ([("Noun.md", .file), ("none", .file),
      ("noun.txt", .file), ("verbs", .directory), (⟨[0xFF]⟩, .file)] :
        List (FileName × EntryKind)) :=
    inNameOrder_eq (by decide +kernel) hnames (by decide +kernel)
  obtain ⟨loaded', hload, hload', hloads, -⟩ := folders_load_in_name_order hnames hperm h h'
  obtain rfl : loaded' = loaded := by
    rw [run_loadFolder h, hsorted] at hload
    have hvalue := congrArg Except.toOption hload
    exact Option.some.inj (hvalue.symm.trans (by decide +kernel))
  exact ⟨hnames, hperm, h, h', hload, hload', hloads⟩

end ProseScript.Vocabulary
