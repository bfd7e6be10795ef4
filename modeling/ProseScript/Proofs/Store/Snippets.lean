import ProseScript.Proofs.Placeholder.Passes
import ProseScript.Placeholder
import ProseScript.Proofs.Store.Assignment

/-!
Snippets stand apart. Main statement: whatever else is looked up in a store, assigned to it or
computed from it is the same with other snippets, and an assignment leaves these as they are.
-/

namespace ProseScript

namespace Store

def withSnippets (s : Store) (snippets : Table (List Node)) : Store := { s with snippets }

variable (s : Store) (sn : Table (List Node))

theorem locate_withSnippets (name : String) {place : Namespace} (h : place ≠ .snippet) :
    (s.withSnippets sn).locate name place = s.locate name place := by
  unfold locate
  rw [if_neg h, if_neg h]
  rfl

theorem ne_snippet_of_locate {s : Store} {name : String} {place : Namespace} (h : place ≠ .snippet)
    {slot : Slot} (hslot : s.locate name place = some slot) : slot ≠ .snippet := by
  rintro rfl
  -- The name would be found as a snippet even in a store that has none.
  have hempty : (s.withSnippets .empty).locate name place = some .snippet :=
    (s.locate_withSnippets .empty name h).trans hslot
  have hfound := found_of_locate hempty
  simp [Found, withSnippets, Table.contains] at hfound

theorem read_withSnippets (name : String) {slot : Slot} (h : slot ≠ .snippet) :
    (s.withSnippets sn).read name slot = s.read name slot := by
  cases slot with
  | snippet => exact absurd rfl h
  | vocabulary folder => cases folder <;> rfl
  | _ => rfl

theorem lookup_withSnippets (name : String) {place : Namespace} (h : place ≠ .snippet) :
    (s.withSnippets sn).lookup name place = s.lookup name place := by
  simp only [lookup, locate_withSnippets s sn _ h]
  cases hslot : s.locate (Text.lower name) place with
  | none => rfl
  | some slot => exact read_withSnippets s sn _ (ne_snippet_of_locate h hslot)

@[simp] theorem lookup_all_withSnippets (name : String) :
    (s.withSnippets sn).lookup name .all = s.lookup name .all :=
  s.lookup_withSnippets sn name (by decide)

theorem write_withSnippets (name : String) {slot : Slot} (h : slot ≠ .snippet) (v : Value) :
    (s.withSnippets sn).write name slot v =
      (s.write name slot v).map fun t => t.withSnippets sn := by
  cases slot with
  | snippet => exact absurd rfl h
  | group =>
    cases v with
    | group members =>
      simp only [write, withSnippets]
      cases s.groups.get? name <;> rfl
    | _ => rfl
  | field group field =>
    cases v with
    | list items =>
      simp only [write, withSnippets]
      cases (s.groups.get? group).bind fun g => g.setActive field items <;> rfl
    | _ => rfl
  | _ => cases v <;> rfl

theorem assign_withSnippets (name : String) (v : Value) :
    (s.withSnippets sn).assign name v = (s.assign name v).map fun t => t.withSnippets sn := by
  have hplace : Namespace.all ≠ .snippet := by decide
  simp only [assign, locate_withSnippets s sn _ hplace]
  cases hslot : s.locate (Text.lower name) .all with
  | none => cases v <;> rfl
  | some slot => exact write_withSnippets s sn _ (ne_snippet_of_locate hplace hslot) v

theorem assignAll_withSnippets (l : Line) (v : Value) (names : List String) :
    (s.withSnippets sn).assignAll l v names =
      ((s.assignAll l v names).1.withSnippets sn, (s.assignAll l v names).2) := by
  induction names generalizing s with
  | nil => rfl
  | cons name rest ih =>
    simp only [assignAll, assign_withSnippets]
    cases s.assign name v with
    | ok t => exact ih t
    | error e => rfl

end Store

namespace Expression

variable (l : Line) (s : Store) (sn : Table (List Node))

theorem viewOf_withSnippets (term : String) : viewOf l (s.withSnippets sn) term = viewOf l s term := by
  simp only [viewOf, Store.lookup_all_withSnippets]

theorem listTerm_withSnippets (allowed : String) :
    listTerm allowed l (s.withSnippets sn) = listTerm allowed l s := by
  funext term
  simp only [listTerm, viewOf_withSnippets]

theorem catalogTerm_withSnippets : catalogTerm l (s.withSnippets sn) = catalogTerm l s := by
  funext term
  simp only [catalogTerm, viewOf_withSnippets]

theorem groupTerm_withSnippets : groupTerm l (s.withSnippets sn) = groupTerm l s := by
  funext term
  simp only [groupTerm, viewOf_withSnippets]

theorem evaluateFixed_withSnippets (style : Style) (rhs : String) :
    evaluateFixed style rhs l (s.withSnippets sn) = evaluateFixed style rhs l s := by
  have hoperand : listOperand l (s.withSnippets sn) = listOperand l s :=
    listTerm_withSnippets l s sn _
  cases style with
  | list => simp only [evaluateFixed, listSum, listTerm_withSnippets]
  | catalog => simp only [evaluateFixed, catalogSum, catalogTerm_withSnippets]
  | group => simp only [evaluateFixed, groupSum, groupTerm_withSnippets]
  | join => simp only [evaluateFixed, wordJoin, hoperand]
  | _ => simp only [evaluateFixed, mapCase, hoperand]

theorem evaluate_withSnippets (style : Style) (rhs : String) (c : Chance) :
    evaluate style rhs l (s.withSnippets sn) c = evaluate style rhs l s c := by
  simp only [evaluate, select, viewOf_withSnippets, evaluateFixed_withSnippets]

theorem assign_withSnippets (style : Style) (c : Chance) :
    Expression.assign style l (s.withSnippets sn) c =
      (((Expression.assign style l s c).1.1.withSnippets sn, (Expression.assign style l s c).1.2),
        (Expression.assign style l s c).2) := by
  unfold Expression.assign
  split
  · rfl
  · next lhs rhs _ =>
    rw [evaluate_withSnippets]
    cases evaluate style rhs l s c with
    | mk value c' =>
      cases value with
      | error f => rfl
      | ok v => simp only [Store.assignAll_withSnippets]

end Expression

theorem Placeholder.substitute_withSnippets (sentence : String) (words : Catalog) (s : Store)
    (sn : Table (List Node)) (c : Chance) :
    substitute sentence words (s.withSnippets sn) c = substitute sentence words s c := by
  have hwords : wordsFor words (s.withSnippets sn) = wordsFor words s := by
    funext token
    simp only [wordsFor, s.lookup_withSnippets sn _ (show Namespace.group ≠ .snippet by decide)]
  rw [substitute_eq_scan, substitute_eq_scan, hwords]

end ProseScript
