/-
What a run does to the variables. No name is lost. Only these can have another value behind a run than
before it: the variable of the question that is resumed, or the flow's defaults that were missing when the
flow is started; and the variables of the replies to the nodes in the trace, each of which holds what came back
of the last call that it is for.
-/
import Dialogue.Proofs.Run.Resumption
import Dialogue.Proofs.Run.Visits

namespace Dialogue

/-- The variables in which the nodes of a trace keep their replies. -/
def Trace.replyVariables (flow : Flow) (t : Trace) : List String :=
  t.steps.filterMap fun r => (flow.node? r.node).bind Node.replyVariable?

/-- Of the members with a property there is a last one. -/
theorem exists_last {α : Type} {p : α → Prop} {xs : List α} (h : ∃ x ∈ xs, p x) :
    ∃ earlier x later, xs = earlier ++ x :: later ∧ p x ∧ ∀ y ∈ later, ¬ p y := by
  induction xs with
  | nil =>
    obtain ⟨x, hx, -⟩ := h
    cases hx
  | cons x rest ih =>
    by_cases hrest : ∃ y ∈ rest, p y
    · obtain ⟨earlier, y, later, rfl, hy, hlater⟩ := ih hrest
      exact ⟨x :: earlier, y, later, rfl, hy, hlater⟩
    · obtain ⟨y, hy, hp⟩ := h
      rcases List.mem_cons.1 hy with rfl | hy
      · exact ⟨[], y, rest, rfl, hp, fun z hz hpz => hrest ⟨z, hz, hpz⟩⟩
      · exact absurd ⟨y, hy, hp⟩ hrest

namespace Engine

/-! ## Before the first step -/

/-- A turn begins with its answer stored, or else with the defaults that the session lacks. -/
theorem get?_opening (flow : Flow) (session : Session) (inbound key : String) :
    (opening flow session inbound).1.vars.get? key =
      match resumed? flow session with
      | some (_, q) =>
        if key = q.variableName ∧ q.variableName ≠ "" then some (.text (q.resolve inbound)) else session.vars.get? key
      | none => (session.vars.get? key).or (flow.defaults.get? key) := by
  cases h : resumed? flow session with
  | some resumed =>
    rw [opening_of_resumed h]
    exact Variables.get?_store ..
  | none =>
    unfold opening
    rw [h]
    exact Variables.get?_mergeDefaults ..

theorem contains_opening {session : Session} {key : String} (h : session.vars.contains key = true) (flow : Flow)
    (inbound : String) : (opening flow session inbound).1.vars.contains key = true := by
  unfold Dictionary.contains at h ⊢
  rw [get?_opening]
  cases resumed? flow session with
  | some resumed =>
    show (if _ then _ else _ : Option Value).isSome = true
    split
    · rfl
    · exact h
  | none =>
    show ((session.vars.get? key).or _).isSome = true
    rw [Option.isSome_or, h, Bool.true_or]

/-- So it changes the variable of its answer, or else adds defaults, and nothing more. -/
theorem of_get?_opening_ne {flow : Flow} {session : Session} {inbound key : String}
    (h : (opening flow session inbound).1.vars.get? key ≠ session.vars.get? key) :
    match resumed? flow session with
    | some (_, q) => key = q.variableName ∧ q.variableName ≠ ""
    | none => session.vars.get? key = none ∧ flow.defaults.contains key = true := by
  rw [get?_opening] at h
  cases hr : resumed? flow session with
  | some resumed =>
    rw [hr] at h
    by_cases hvar : key = resumed.2.variableName ∧ resumed.2.variableName ≠ ""
    · exact hvar
    · exact absurd (if_neg hvar) h
  | none =>
    rw [hr] at h
    cases hvalue : session.vars.get? key with
    | some value =>
      simp only [hvalue, Option.some_or] at h
      exact absurd rfl h
    | none =>
      simp only [hvalue, Option.none_or] at h
      exact ⟨rfl, Option.isSome_iff_ne_none.2 h⟩

/-! ## What the steps write -/

section

variable {engine : Engine} {flow : Flow} {session : Option Session} {inbound : String} {ledger : Ledger}

/-- The nodes of the records, found in the flow, are those of the visits. -/
theorem run_found : (engine.run flow session inbound ledger).1.trace.steps.map (fun r => flow.node? r.node) =
    (engine.visits flow session inbound ledger).map fun v => some v.node := by
  refine List.ext_getElem? fun i => ?_
  rw [List.getElem?_map, run_records, List.getElem?_mapIdx, List.getElem?_map]
  cases hv : (engine.visits flow session inbound ledger)[i]? with
  | none => rfl
  | some v => exact congrArg some (visits_node? (List.mem_of_getElem? hv))

theorem run_replyVariables : (engine.run flow session inbound ledger).1.trace.replyVariables flow =
    (engine.visits flow session inbound ledger).filterMap (·.node.replyVariable?) := by
  show List.filterMap ((Option.bind · Node.replyVariable?) ∘ fun r : StepRecord => flow.node? r.node) _ = _
  rw [← List.filterMap_map, run_found, List.filterMap_map]
  rfl

/-- The names of the writes are the variables of the replies. -/
theorem writes_names (engine : Engine) (visits : List Visit) :
    (visits.filterMap (Visit.write? engine)).map (·.1) = visits.filterMap (·.node.replyVariable?) := by
  simp only [List.map_filterMap, Visit.write?_fst]

/-- What no reply is for is as it was before the first step. -/
theorem get?_run_of_not_mem {key : String}
    (h : key ∉ (engine.run flow session inbound ledger).1.trace.replyVariables flow) :
    (engine.run flow session inbound ledger).1.session.vars.get? key =
      (opening flow (session.getD .new) inbound).1.vars.get? key := by
  rw [run_replyVariables, ← writes_names engine] at h
  rw [run_vars, varsAfter, List.take_length]
  exact Variables.get?_overwrite_of_not_mem h _

/-- The last reply for a variable is what it holds in the end. -/
theorem get?_run_of_mem {key : String}
    (h : key ∈ (engine.run flow session inbound ledger).1.trace.replyVariables flow) :
    ∃ earlier v later value, engine.visits flow session inbound ledger = earlier ++ v :: later ∧
      v.node.replyVariable? = some key ∧ (∀ u ∈ later, u.node.replyVariable? ≠ some key) ∧
      v.reply? engine = some value ∧
      (engine.run flow session inbound ledger).1.session.vars.get? key = some value := by
  rw [run_replyVariables] at h
  obtain ⟨earlier, v, later, hsplit, hv, hlater⟩ := exists_last (List.mem_filterMap.1 h)
  -- the visit has a variable for its reply, so it writes there
  obtain ⟨⟨name, value⟩, hwrite, rfl⟩ : ∃ w, v.write? engine = some w ∧ w.1 = key := by
    rw [← v.write?_fst engine] at hv
    exact Option.map_eq_some_iff.1 hv
  have hreply : v.reply? engine = some value := by
    obtain ⟨reply, hr, hmap⟩ := Option.bind_eq_some_iff.1 hwrite
    obtain ⟨_, _, heq⟩ := Option.map_eq_some_iff.1 hmap
    rw [hr]
    cases heq
    rfl
  have hnot : name ∉ (later.filterMap (Visit.write? engine)).map (·.1) := by
    rw [writes_names, List.mem_filterMap]
    rintro ⟨u, hu, hname⟩
    exact hlater u hu hname
  refine ⟨earlier, v, later, value, hsplit, hv, hlater, hreply, ?_⟩
  rw [run_vars, varsAfter, List.take_length, hsplit, List.filterMap_append, List.filterMap_cons, hwrite]
  exact Variables.get?_overwrite_last hnot ..

end

/-! ## The frame of a run -/

/-- Whatever the flow, the settings, the session, the message and the services: no variable is lost; those that
no node of the trace keeps a reply in are as before, but for the answer of a resumed turn, and for the missing
defaults of one that is not resumed; and a variable of replies holds what the last of its calls left. -/
theorem run_vars_frame (engine : Engine) (flow : Flow) (session : Option Session) (inbound : String)
    (ledger : Ledger) :
    let before := (session.getD .new).vars
    let result := (engine.run flow session inbound ledger).1
    let after := result.session.vars
    let written := result.trace.replyVariables flow
    let visits := engine.visits flow session inbound ledger
    (∀ key, before.contains key = true → after.contains key = true) ∧
    (∀ key, after.get? key ≠ before.get? key → key ∈ written ∨
      match resumed? flow (session.getD .new) with
      | some (_, q) => key = q.variableName ∧ q.variableName ≠ ""
      | none => before.get? key = none ∧ flow.defaults.contains key = true) ∧
    (∀ key, key ∉ written → after.get? key =
      match resumed? flow (session.getD .new) with
      | some (_, q) =>
        if key = q.variableName ∧ q.variableName ≠ "" then some (.text (q.resolve inbound)) else before.get? key
      | none => (before.get? key).or (flow.defaults.get? key)) ∧
    result.trace.steps = visits.mapIdx (fun i v => v.record engine (i + 1)) ∧
    (∀ key ∈ written, ∃ earlier v later value, visits = earlier ++ v :: later ∧
      v.node.replyVariable? = some key ∧ (∀ u ∈ later, u.node.replyVariable? ≠ some key) ∧
      v.reply? engine = some value ∧ after.get? key = some value) := by
  intro before result after written visits
  refine ⟨fun key hkey => ?_, fun key hne => ?_, fun key hkey => ?_, engine.run_records flow session inbound ledger,
    fun key hkey => get?_run_of_mem hkey⟩
  · show (engine.run flow session inbound ledger).1.session.vars.contains key = true
    rw [run_vars]
    exact Variables.contains_overwrite (contains_opening hkey flow inbound) _
  · by_cases hkey : key ∈ written
    · exact .inl hkey
    · rw [show after.get? key = _ from get?_run_of_not_mem hkey] at hne
      exact .inr (of_get?_opening_ne hne)
  · exact (get?_run_of_not_mem hkey).trans (get?_opening ..)

end Engine

end Dialogue
