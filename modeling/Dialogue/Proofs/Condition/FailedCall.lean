/-
Branching on calls that failed. A failed call leaves a marker in the variable of its node, for conditions to look
at: `ok` is false in it, and `error` is the kind of the failure. The conditions on these fields hold right behind
the call when the variable's name has no dot and no opening bracket. With one of these in the name, a condition
reads the name as a path from another variable; it never sees the marker, and holds when it held before the call.
-/
import Dialogue.Proofs.Condition.Reading
import Dialogue.Proofs.Run.Visits
import Dialogue.Proofs.Variables.Lookup

namespace Dialogue

/-! ## The marker -/

namespace Failure

variable (failure : Failure)

theorem marker_ok : failure.marker.field? "ok" = some (.bool false) := by
  simp [marker, Value.ofFields, Value.field?, Entries.ofList, Entries.find?_insert_of_ne, Entries.find?_insert_self]

theorem marker_error : failure.marker.field? "error" = some (.text failure.kind) := by
  simp [marker, Value.ofFields, Value.field?, Entries.ofList, Entries.find?_insert_of_ne, Entries.find?_insert_self]

/-- The kind of a failure is a literal that is read as it is written. -/
theorem literal?_kind : Condition.literal? (' ' :: failure.kind.toList) = some failure.kind.toList := by
  unfold kind
  cases failure <;> simp only <;> decide

end Failure

/-! ## Conditions behind a write -/

/-- An equality of a field of a value with a literal, right behind the write of the value. -/
theorem Condition.holds_insert_field {name : String} (field literal : String) (hname : Text.IsName name.toList)
    (hcontinues : field.toList.all Text.continuesName = true) (hfield : field.toList.all Path.inBase = true)
    (hne : field ≠ "") (hliteral : literal? (' ' :: literal.toList) = some literal.toList) {vars : Variables}
    (h : vars.get? (name ++ "." ++ field) = none) (value : Value) :
    (read (name ++ "." ++ field ++ " == " ++ literal)).holds (vars.insert name value) =
      if name.toList.all Path.inBase then (value.field? field).map Value.display == some literal
      else (read (name ++ "." ++ field ++ " == " ++ literal)).holds vars := by
  have hpath : Text.IsName (name ++ "." ++ field).toList := by
    rw [String.toList_append, String.toList_append]
    exact (hname.append (by decide)).append hcontinues
  rw [read_equal hpath hliteral, holds_equal, holds_equal, Variables.lookupText,
    Variables.lookup_insert_field vars value hfield hne hpath.trim_eq h]
  split <;> rfl

namespace Engine

/-- Right behind a call that failed, the conditions that its variable is not ok and that its error is the kind of
the failure hold, if the variable's name has no dot and no opening bracket; and with such a name each of them holds
when it held before the call. -/
theorem step_failed_holds {engine : Engine} {node : Node} {vars : Variables} {ledger : Ledger} {name : String}
    {failure : Failure} (hname : Text.IsName name.toList) (hnode : node.variableName? = some name)
    (hfailed : (engine.step node vars ledger).failure = some failure) (hok : vars.get? (name ++ ".ok") = none)
    (herror : vars.get? (name ++ ".error") = none) :
    let after := (engine.step node vars ledger).vars
    let notOk := Condition.read (name ++ ".ok == false")
    let ofKind := Condition.read (name ++ ".error == " ++ failure.kind)
    (name.toList.all Path.inBase = true → notOk.holds after = true ∧ ofKind.holds after = true) ∧
      (name.toList.all Path.inBase = false →
        notOk.holds after = notOk.holds vars ∧ ofKind.holds after = ofKind.holds vars) := by
  intro after notOk ofKind
  have hne : name ≠ "" := by
    rintro rfl
    obtain ⟨c, r, h, -⟩ := hname
    cases h
  have hafter : after = vars.insert name failure.marker := by
    show (engine.step node vars ledger).vars = _
    rw [vars_of_failure hnode hfailed, Variables.store, if_neg hne]
  -- both conditions are equalities of a field; their texts only have to be cut where name, field and literal meet
  have hnotOk : notOk = Condition.read (name ++ "." ++ "ok" ++ " == " ++ "false") := by
    simp [notOk, String.append_assoc]
  have hofKind : ofKind = Condition.read (name ++ "." ++ "error" ++ " == " ++ failure.kind) := by
    simp [ofKind, String.append_assoc]
  have hfirst := Condition.holds_insert_field "ok" "false" hname (by decide) (by decide) (by decide) (by decide)
    (by simpa [String.append_assoc] using hok) failure.marker
  have hsecond := Condition.holds_insert_field "error" failure.kind hname (by decide) (by decide) (by decide)
    failure.literal?_kind (by simpa [String.append_assoc] using herror) failure.marker
  rw [hafter, hnotOk, hofKind, hfirst, hsecond, failure.marker_ok, failure.marker_error]
  constructor
  · intro hbase
    rw [if_pos hbase, if_pos hbase]
    exact ⟨by decide, by simp [Value.display]⟩
  · intro hbase
    rw [if_neg (ne_true_of_eq_false hbase), if_neg (ne_true_of_eq_false hbase)]
    exact ⟨rfl, rfl⟩

/-- A call whose reply goes into `crm`, where no service is configured. -/
theorem step_failed_holds_unconfigured :
    let engine : Engine := ⟨.default, .none⟩
    let node : Node := ⟨"lead", none, .webhook ⟨"http://crm", "POST", .empty, none, none, "crm"⟩⟩
    let after := (engine.step node .empty .empty).vars
    (engine.step node .empty .empty).failure = some (.notConfigured "webhook") ∧
      (Condition.read "crm.ok == false").holds after = true ∧
      (Condition.read "crm.error == not_configured").holds after = true := by
  intro engine node after
  have hname : Text.IsName "crm".toList := ⟨'c', ['r', 'm'], rfl, by decide, by decide⟩
  have hfailed : (engine.step node .empty .empty).failure = some (.notConfigured "webhook") := rfl
  exact ⟨hfailed, (step_failed_holds hname rfl hfailed rfl rfl).1 (by decide)⟩

/-- The call has failed and its marker is in `crm.lead`, a name that conditions can mention; neither condition finds
it there. -/
theorem step_failed_dotted :
    let engine : Engine := ⟨.default, .none⟩
    let node : Node := ⟨"lead", none, .webhook ⟨"http://crm", "POST", .empty, none, none, "crm.lead"⟩⟩
    let after := (engine.step node .empty .empty).vars
    Text.IsName "crm.lead".toList ∧ (engine.step node .empty .empty).failure = some (.notConfigured "webhook") ∧
      (after.get? "crm.lead").isSome = true ∧ (Condition.read "crm.lead.ok == false").holds after = false ∧
      (Condition.read "crm.lead.error == not_configured").holds after = false :=
  ⟨⟨'c', "rm.lead".toList, rfl, by decide, by decide⟩, rfl, by decide +kernel⟩

end Engine

end Dialogue
