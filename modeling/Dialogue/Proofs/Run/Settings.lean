/-
Two settings that change nothing in the state of a conversation. With another policy for pauses a run does the
same, and only the time that has passed differs. With another fallback text a run leaves the same session, trace
and ledger, and puts out the same but for the fallback messages.

No step reads the time, and none reads what was put out before it. So of two runs side by side all corresponds but
the time in the one case (`Progress.atClock`), and all but the outputs in the other (`Progress.withResponses`).
-/
import Dialogue.Proofs.Run.Lockstep
import Dialogue.Proofs.Run.Responses

namespace Dialogue

/-! ## Pauses -/

/-- The engine with another policy for pauses. -/
def Engine.withPolicy (engine : Engine) (policy : DelayPolicy) : Engine :=
  { engine with config := { engine.config with delayPolicy := policy } }

/-- The ledger at another time. -/
def Ledger.atClock (l : Ledger) (ms : Nat) : Ledger := { l with clockMs := ms }

/-- A step that was made at another time. -/
def StepReport.atClock (r : StepReport) (ms : Nat) : StepReport := { r with ledger := r.ledger.atClock ms }

namespace Progress

/-- A walk under way at another time. -/
def atClock (p : Progress) (ms : Nat) : Progress := { p with ledger := p.ledger.atClock ms }

theorem after_atClock (p : Progress) (node : Node) (r : StepReport) (ms ms' : Nat) :
    (p.atClock ms).after node (r.atClock ms') = (p.after node r).atClock ms' := rfl

theorem close_atClock (p : Progress) (ms : Nat) (ending : Ending) :
    (p.atClock ms).close ending = ((p.close ending).1, (p.close ending).2.atClock ms) := by
  cases ending <;> rfl

end Progress

namespace Engine

section

variable (engine : Engine) (policy : DelayPolicy) (vars : Variables) (ledger : Ledger) (ms : Nat)

theorem stepWebhook_withPolicy (id : String) (w : Webhook) :
    ∃ ms', (engine.withPolicy policy).stepWebhook id w vars (ledger.atClock ms) =
      (engine.stepWebhook id w vars ledger).atClock ms' := by
  let request := webhookRequest engine.config w vars
  obtain ⟨reply, hreply⟩ : ∃ reply,
    (engine.services.webhook ledger.webhooks.length request).within engine.services.timer request.timeoutMs = reply :=
      ⟨_, rfl⟩
  -- neither the call nor its limit depends on the policy or on the time
  have hreply' : ((engine.withPolicy policy).services.webhook (ledger.atClock ms).webhooks.length
      (webhookRequest (engine.withPolicy policy).config w vars)).within (engine.withPolicy policy).services.timer
      (webhookRequest (engine.withPolicy policy).config w vars).timeoutMs = reply := hreply
  refine ⟨ms + reply.2, ?_⟩
  unfold stepWebhook
  simp only
  rw [hreply', show Reply.within _ _ _ = reply from hreply]
  obtain ⟨outcome, waited⟩ := reply
  cases outcome <;> rfl

theorem stepAi_withPolicy (id : String) (p : Prompt) :
    ∃ ms', (engine.withPolicy policy).stepAi id p vars (ledger.atClock ms) =
      (engine.stepAi id p vars ledger).atClock ms' := by
  obtain ⟨reply, hreply⟩ : ∃ reply,
    (engine.services.ai ledger.ais.length (aiRequest p vars)).within engine.services.timer engine.config.aiTimeoutMs =
      reply := ⟨_, rfl⟩
  have hreply' : ((engine.withPolicy policy).services.ai (ledger.atClock ms).ais.length (aiRequest p vars)).within
      (engine.withPolicy policy).services.timer (engine.withPolicy policy).config.aiTimeoutMs = reply := hreply
  refine ⟨ms + reply.2, ?_⟩
  unfold stepAi
  simp only
  rw [hreply', hreply]
  obtain ⟨outcome, waited⟩ := reply
  cases outcome <;> rfl

/-- With another policy a step at another time does the same, and leaves some other time. -/
theorem step_withPolicy (node : Node) :
    ∃ ms', (engine.withPolicy policy).step node vars (ledger.atClock ms) =
      (engine.step node vars ledger).atClock ms' := by
  unfold step
  cases node.kind with
  | condition branches =>
    refine ⟨ms, ?_⟩
    show stepCondition node.id branches vars _ = (stepCondition node.id branches vars ledger).atClock ms
    unfold stepCondition
    cases takenBranch? vars branches <;> rfl
  | webhook w => exact engine.stepWebhook_withPolicy policy vars ledger ms node.id w
  | aiResponse p => exact engine.stepAi_withPolicy policy vars ledger ms node.id p
  | delay d =>
    -- what a pause takes is the only thing that the policy decides
    exact ⟨((engine.withPolicy policy).stepDelay node.id d vars (ledger.atClock ms)).ledger.clockMs, rfl⟩
  | _ => exact ⟨ms, rfl⟩

variable (flow : Flow)

/-- With another policy and at another time a run has the same result, and leaves the same but for the time. -/
theorem run_withPolicy (session : Option Session) (inbound : String) :
    ∃ ms', (engine.withPolicy policy).run flow session inbound (ledger.atClock ms) =
      ((engine.run flow session inbound ledger).1, (engine.run flow session inbound ledger).2.atClock ms') := by
  have hlockstep : Lockstep engine (engine.withPolicy policy) flow flow (· = ·) fun p q => ∃ ms, q = p.atClock ms :=
    .ofLookups rfl (fun _ => rfl) (fun _ => rfl) fun ⟨_, hq⟩ => hq ▸ rfl
  obtain ⟨p, q, ending, ⟨ms', rfl⟩, hrun, hrun'⟩ := hlockstep.run_of_steps (fun ⟨_, hq⟩ => hq ▸ rfl)
    (fun node p _ ⟨ms, hq⟩ => by
      subst hq
      obtain ⟨ms', hstep⟩ := engine.step_withPolicy policy p.session.vars p.ledger ms node
      exact ⟨ms', (congrArg ((p.atClock ms).after node) hstep).trans (p.after_atClock node _ ms ms')⟩)
    (show ∃ ms', outset flow session inbound (ledger.atClock ms) = (outset flow session inbound ledger).atClock ms' from
      ⟨ms, rfl⟩)
  refine ⟨ms', ?_⟩
  rw [hrun, ← p.close_atClock]
  exact hrun'

end

end Engine

/-! ## Fallback texts -/

/-- The engine with another text for the user, or none, when a generated reply fails. -/
def Engine.withFallback (engine : Engine) (fallback : Option String) : Engine :=
  { engine with config := { engine.config with aiFallback := fallback } }

/-- A step with other outputs. -/
def StepReport.withOutputs (r : StepReport) (outputs : List Output) : StepReport := { r with outputs := outputs }

namespace Progress

/-- A walk under way with other outputs. -/
def withResponses (p : Progress) (responses : List Output) : Progress := { p with responses := responses }

theorem after_withResponses (p : Progress) (node : Node) (r : StepReport) (responses outputs : List Output) :
    (p.withResponses responses).after node (r.withOutputs outputs) =
      (p.after node r).withResponses (responses ++ outputs) := rfl

theorem close_withResponses (p : Progress) (responses : List Output) (ending : Ending) :
    (p.withResponses responses).close ending =
      ({ (p.close ending).1 with responses := responses }, (p.close ending).2) := by
  cases ending <;> rfl

end Progress

/-- The outputs of a step, from its record and from all that it puts out: without the message that directly
follows the notice, if the step is a generated reply that has failed. -/
def StepRecord.withoutFallback (r : StepRecord) (group : List Output) : List Output :=
  if r.kind = "ai_response" ∧ r.outcome = .failed then
    match group with
    | .system node text :: .message _ _ :: rest => .system node text :: rest
    | _ => group
  else group

/-- Without its fallback a node for a generated reply puts out what the outcome of its request says. -/
theorem NodeKind.Puts.withoutFallback_eq {engine : Engine} {vars : Variables} {ledger : Ledger} {id : String}
    {p : Prompt} {outcome : Outcome} {group : List Output}
    (h : Puts engine vars ledger id (.aiResponse p) outcome group) {r : StepRecord} (hkind : r.kind = "ai_response")
    (houtcome : r.outcome = outcome) : r.withoutFallback group = match engine.aiOutcome p vars ledger with
      | .ok response => [.message id response.text]
      | .error failure => [.system (some id) ("ai response failed: " ++ failure.message)] := by
  unfold StepRecord.withoutFallback
  cases h with
  | generated ha => rw [if_neg (by rw [houtcome]; simp), ha]
  | replaced ha => rw [if_pos ⟨hkind, houtcome⟩, ha]
  | missing ha => rw [if_pos ⟨hkind, houtcome⟩, ha]

namespace Engine

/-- What the steps of a run put out, step by step. -/
def groups (engine : Engine) (flow : Flow) (session : Option Session) (inbound : String) (ledger : Ledger) :
    List (List Output) :=
  (engine.visits flow session inbound ledger).map fun v => (v.report engine).outputs

section

variable (engine : Engine) (fallback : Option String)

/-- With another fallback a step does the same, but for its outputs. -/
theorem step_withFallback (node : Node) (vars : Variables) (ledger : Ledger) :
    ∃ outputs, (engine.withFallback fallback).step node vars ledger =
      (engine.step node vars ledger).withOutputs outputs := by
  refine ⟨((engine.withFallback fallback).step node vars ledger).outputs, ?_⟩
  unfold step
  cases node.kind with
  | aiResponse p =>
    obtain ⟨reply, hreply⟩ : ∃ reply,
      (engine.services.ai ledger.ais.length (aiRequest p vars)).within engine.services.timer
        engine.config.aiTimeoutMs = reply := ⟨_, rfl⟩
    have hreply' : ((engine.withFallback fallback).services.ai ledger.ais.length (aiRequest p vars)).within
        (engine.withFallback fallback).services.timer (engine.withFallback fallback).config.aiTimeoutMs = reply :=
      hreply
    -- the reply is the same, and only what is put out behind the notice of a failure differs
    show stepAi _ node.id p vars ledger = (engine.stepAi node.id p vars ledger).withOutputs (stepAi _ _ _ _ _).outputs
    unfold stepAi
    simp only
    rw [hreply', hreply]
    obtain ⟨outcome, waited⟩ := reply
    cases outcome <;> rfl
  | _ => rfl

/-- Without its fallback a visit puts out the same, whatever the fallback is. -/
theorem withoutFallback_report (v : Visit) (number : Nat) :
    (v.record (engine.withFallback fallback) number).withoutFallback (v.report (engine.withFallback fallback)).outputs =
      (v.record engine number).withoutFallback (v.report engine).outputs := by
  have hputs := v.report_puts engine
  have hputs' := v.report_puts (engine.withFallback fallback)
  obtain ⟨⟨id, label, kind⟩, vars, ledger⟩ := v
  cases kind with
  | aiResponse p =>
    rw [hputs.withoutFallback_eq rfl rfl, hputs'.withoutFallback_eq rfl rfl]
    rfl
  | _ => rfl

variable (flow : Flow)

theorem visitsFrom_withFallback (remaining : Nat) (next : Option String) (vars : Variables) (ledger : Ledger) :
    (engine.withFallback fallback).visitsFrom flow remaining next vars ledger =
      engine.visitsFrom flow remaining next vars ledger := by
  induction remaining generalizing next vars ledger with
  | zero => rfl
  | succ remaining ih =>
    unfold visitsFrom
    cases next.bind flow.node? with
    | none => rfl
    | some node =>
      -- a walk goes on with what the step leaves, and the outputs are no part of that
      obtain ⟨outputs, hstep⟩ := engine.step_withFallback fallback node vars ledger
      simp only [hstep]
      exact congrArg (List.cons _) (ih ..)

variable (session : Option Session) (inbound : String) (ledger : Ledger)

theorem visits_withFallback : (engine.withFallback fallback).visits flow session inbound ledger =
    engine.visits flow session inbound ledger :=
  engine.visitsFrom_withFallback fallback flow engine.config.maxSteps _ _ ledger

/-- With another fallback a run does the same and leaves the same, but for its outputs. -/
theorem run_withFallback : ∃ responses, (engine.withFallback fallback).run flow session inbound ledger =
    ({ (engine.run flow session inbound ledger).1 with responses := responses },
      (engine.run flow session inbound ledger).2) := by
  have hlockstep : Lockstep engine (engine.withFallback fallback) flow flow (· = ·)
      fun p q => ∃ responses, q = p.withResponses responses :=
    .ofLookups rfl (fun _ => rfl) (fun _ => rfl) fun ⟨_, hq⟩ => hq ▸ rfl
  obtain ⟨p, q, ending, ⟨responses, rfl⟩, hrun, hrun'⟩ := hlockstep.run_of_steps (fun ⟨_, hq⟩ => hq ▸ rfl)
    (fun node p _ ⟨responses, hq⟩ => by
      subst hq
      obtain ⟨outputs, hstep⟩ := engine.step_withFallback fallback node p.session.vars p.ledger
      exact ⟨responses ++ outputs, (congrArg ((p.withResponses responses).after node) hstep).trans
        (p.after_withResponses node _ responses outputs)⟩)
    (show ∃ responses, outset flow session inbound ledger =
        (outset flow session inbound ledger).withResponses responses from ⟨[], rfl⟩)
  refine ⟨responses, ?_⟩
  rw [hrun, ← p.close_withResponses]
  exact hrun'

end

/-- Whatever the flow, the settings, the session, the message and the services: with another policy for pauses a
run has the same result and hands out the same requests, so only its time differs. With another fallback, or
with none, a run has the same result and hands out the same requests at the same time, but for its outputs; and
these are the same as well, if for each generated reply that has failed the message is left out that the step puts
out directly behind its notice. -/
theorem run_of_policy_and_fallback (engine : Engine) (flow : Flow) (session : Option Session) (inbound : String)
    (ledger : Ledger) :
    let out := engine.run flow session inbound ledger
    let groups := engine.groups flow session inbound ledger
    (∀ policy,
      let out' := (engine.withPolicy policy).run flow session inbound ledger
      out'.1 = out.1 ∧ out'.2 = out.2.atClock out'.2.clockMs) ∧
    ∀ fallback,
      let out' := (engine.withFallback fallback).run flow session inbound ledger
      let groups' := (engine.withFallback fallback).groups flow session inbound ledger
      out'.1 = { out.1 with responses := out'.1.responses } ∧ out'.2 = out.2 ∧
      (out.1.responses = groups.flatten ∧ groups.length = out.1.trace.steps.length) ∧
      (out'.1.responses = groups'.flatten ∧ groups'.length = out'.1.trace.steps.length) ∧
      List.zipWith StepRecord.withoutFallback out'.1.trace.steps groups' =
        List.zipWith StepRecord.withoutFallback out.1.trace.steps groups := by
  have hgroups (e : Engine) : (e.run flow session inbound ledger).1.responses =
        (e.groups flow session inbound ledger).flatten ∧
      (e.groups flow session inbound ledger).length = (e.run flow session inbound ledger).1.trace.steps.length := by
    refine ⟨e.run_responses flow session inbound ledger, ?_⟩
    rw [run_records, List.length_mapIdx]
    exact List.length_map _
  intro out groups
  refine ⟨fun policy => ?_, fun fallback => ?_⟩
  · intro out'
    obtain ⟨ms, hrun⟩ := engine.run_withPolicy policy ledger ledger.clockMs flow session inbound
    rw [show out' = _ from hrun]
    exact ⟨rfl, rfl⟩
  · intro out' groups'
    obtain ⟨responses, hrun⟩ := engine.run_withFallback fallback flow session inbound ledger
    refine ⟨?_, ?_, hgroups engine, hgroups (engine.withFallback fallback), List.ext_getElem? fun i => ?_⟩
    · rw [show out' = _ from hrun]
    · rw [show out' = _ from hrun]
    · rw [List.getElem?_zipWith, List.getElem?_zipWith, show out'.1.trace.steps = _ from run_records ..,
        show out.1.trace.steps = _ from run_records .., show groups' = List.map _ _ from rfl,
        show groups = List.map _ _ from rfl, visits_withFallback]
      simp only [List.getElem?_mapIdx, List.getElem?_map]
      cases (engine.visits flow session inbound ledger)[i]? with
      | none => rfl
      | some v => exact congrArg some (engine.withoutFallback_report fallback v (i + 1))

end Engine

end Dialogue
