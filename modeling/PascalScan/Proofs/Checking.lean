import PascalScan.Message
import Mathlib

/-!
# What a check of a message looks at and what it reports

A message is read from the fields of an object. This file says of the messages as a whole which
fields they look at, and that a report is never empty and holds faults of declared fields only, in
the order in which they are declared.
-/

namespace PascalScan

namespace Checked

variable {α β : Type}

/-- If the check fails, it has a fault to report, and all are faults of these fields, in this
order. -/
def ReportsOn (names : List String) (c : Checked α) : Prop :=
  ∀ faults, c = .error faults → faults ≠ [] ∧ (faults.map FieldFault.field).Sublist names

theorem ReportsOn.map {names : List String} {c : Checked α} (h : ReportsOn names c)
    (f : α → β) : ReportsOn names (c.map f) := by
  intro faults hmap
  cases c with
  | ok a => cases hmap
  | error es =>
      cases hmap
      exact h _ rfl

/-- Of two checks both report, the faults of the first before those of the second. -/
theorem ReportsOn.ap {names others : List String} {f : Checked (α → β)} {c : Checked α}
    (hf : ReportsOn names f) (hc : ReportsOn others c) :
    ReportsOn (names ++ others) (f.ap c) := by
  intro faults hap
  cases f with
  | ok g =>
      cases c with
      | ok a => cases hap
      | error es =>
          cases hap
          obtain ⟨hne, hfaults⟩ := hc _ rfl
          exact ⟨hne, hfaults.trans (List.sublist_append_right _ _)⟩
  | error es =>
      obtain ⟨hne, hfaults⟩ := hf es rfl
      cases c with
      | ok a =>
          cases hap
          exact ⟨hne, hfaults.trans (List.sublist_append_left _ _)⟩
      | error fs =>
          cases hap
          obtain ⟨-, hothers⟩ := hc fs rfl
          refine ⟨fun h => hne (List.append_eq_nil_iff.mp h).1, ?_⟩
          rw [List.map_append]
          exact hfaults.append hothers

end Checked

namespace Field

variable {α : Type}

theorem reportsOn_check (name : String) (kind : Json → Except Flaw α) (v : Json) :
    Checked.ReportsOn [name] (check name kind v) := by
  intro faults h
  unfold check at h
  cases hv : kind v with
  | ok a =>
      rw [hv] at h
      cases h
  | error flaw =>
      rw [hv] at h
      cases h
      exact ⟨List.cons_ne_nil _ _, List.Sublist.refl _⟩

theorem reportsOn_required (fields : Json.Fields) (name : String)
    (kind : Json → Except Flaw α) : Checked.ReportsOn [name] (required fields name kind) := by
  unfold required
  cases fields.lookup name with
  | some v => exact reportsOn_check name kind v
  | none =>
      intro faults h
      cases h
      exact ⟨List.cons_ne_nil _ _, List.Sublist.refl _⟩

theorem reportsOn_withDefault (fields : Json.Fields) (name : String) (default : α)
    (kind : Json → Except Flaw α) :
    Checked.ReportsOn [name] (withDefault fields name default kind) := by
  unfold withDefault
  cases fields.lookup name with
  | some v => exact reportsOn_check name kind v
  | none =>
      intro faults h
      cases h

end Field

/-! ## The messages that the gateway reads -/

theorem Token.reportsOn_ofFields (fields : Json.Fields) :
    Checked.ReportsOn ["type", "value"] (Token.ofFields fields) := by
  unfold Token.ofFields
  exact ((Field.reportsOn_required fields "type" Field.tokenKind).map _).ap
    (Field.reportsOn_required fields "value" Field.text)

theorem Diagnostic.reportsOn_ofFields (fields : Json.Fields) :
    Checked.ReportsOn ["line", "code", "msg"] (Diagnostic.ofFields fields) := by
  unfold Diagnostic.ofFields
  exact (((Field.reportsOn_required fields "line" Field.integer).map _).ap
    (Field.reportsOn_required fields "code" Field.text)).ap
    (Field.reportsOn_required fields "msg" Field.text)

theorem Refusal.reportsOn_ofFields (fields : Json.Fields) :
    Checked.ReportsOn ["ok", "phase", "line", "code", "msg"] (Refusal.ofFields fields) := by
  unfold Refusal.ofFields
  exact (((((Field.reportsOn_withDefault fields "ok" () Field.isFalse).map _).ap
    (Field.reportsOn_required fields "phase" Phase.ofJson)).ap
    (Field.reportsOn_withDefault fields "line" none Field.integerOrNull)).ap
    (Field.reportsOn_required fields "code" Field.text)).ap
    (Field.reportsOn_required fields "msg" Field.text)

/-- A refusal is read from its own fields: what else is in the object makes no difference. -/
theorem Refusal.ofFields_congr {fields other : Json.Fields}
    (h : ∀ name ∈ ["ok", "phase", "line", "code", "msg"],
      other.lookup name = fields.lookup name) :
    Refusal.ofFields other = Refusal.ofFields fields := by
  simp only [List.forall_mem_cons] at h
  obtain ⟨hok, hphase, hline, hcode, hmsg, -⟩ := h
  unfold Refusal.ofFields Field.withDefault Field.required
  rw [hok, hphase, hline, hcode, hmsg]

end PascalScan
