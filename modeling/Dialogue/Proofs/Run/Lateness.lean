/-
Late replies. A caller waits for a reply no longer than its limit, and then goes on without it: of a reply that comes
late it learns nothing but that it is late. So services that answer every call in the same time, and differ in what
they answer late, give the same run, in which each of these calls has timed out; and a run that keeps no pauses takes
as long as its calls are waited for.

How long a wait takes is not up to the engine. All this is said of an exact timer, by which a call times out exactly
when its reply takes longer than the limit.
-/
import Mathlib.Algebra.Ring.Nat
import Dialogue.Proofs.Run.Lockstep
import Dialogue.Proofs.Run.Responses

namespace Dialogue

/-! ## Replies -/

namespace Reply

variable {α : Type} {timer : Timer} {timeoutMs : Nat}

theorem within_of_late (hexact : timer.Exact) {r : Reply α} (h : timeoutMs < r.delayMs) :
    r.within timer timeoutMs = (.error (.timeout timeoutMs), timeoutMs) := by
  unfold within
  rw [hexact, hexact]
  exact if_pos h

theorem within_of_in_time (hexact : timer.Exact) {r : Reply α} (h : r.delayMs ≤ timeoutMs) :
    r.within timer timeoutMs = (r.outcome, r.delayMs) := by
  unfold within
  rw [hexact, hexact]
  exact if_neg (Nat.not_lt.2 h)

theorem within_waited (hexact : timer.Exact) (r : Reply α) (timeoutMs : Nat) :
    (r.within timer timeoutMs).2 = min r.delayMs timeoutMs := by
  rcases Nat.lt_or_ge timeoutMs r.delayMs with h | h
  · rw [within_of_late hexact h, Nat.min_eq_right (Nat.le_of_lt h)]
  · rw [within_of_in_time hexact h, Nat.min_eq_left h]

/-- Two replies that take the same time, and are the same unless they come later than `timeoutMs`. -/
structure Indistinct (timeoutMs : Nat) (a b : Reply α) : Prop where
  delayMs : b.delayMs = a.delayMs
  outcome : a.delayMs ≤ timeoutMs → b.outcome = a.outcome

theorem Indistinct.refl (a : Reply α) : a.Indistinct timeoutMs a := ⟨rfl, fun _ => rfl⟩

theorem Indistinct.of_late {a b : Reply α} (hdelay : b.delayMs = a.delayMs) (h : timeoutMs < a.delayMs) :
    a.Indistinct timeoutMs b :=
  ⟨hdelay, fun hle => absurd h (Nat.not_lt.2 hle)⟩

theorem Indistinct.within_eq (hexact : timer.Exact) {a b : Reply α} (h : a.Indistinct timeoutMs b) :
    b.within timer timeoutMs = a.within timer timeoutMs := by
  rcases Nat.lt_or_ge timeoutMs a.delayMs with hlt | hle
  · rw [within_of_late hexact hlt, within_of_late hexact (h.delayMs ▸ hlt)]
  · rw [within_of_in_time hexact hle, within_of_in_time hexact (h.delayMs ▸ hle), h.outcome hle, h.delayMs]

end Reply

/-! ## Calls -/

namespace Engine

variable {engine : Engine} {id : String} {vars : Variables} {ledger : Ledger} {failure : Failure}

theorem stepWebhook_failure {w : Webhook} (h : engine.webhookOutcome w vars ledger = .error failure) :
    (engine.stepWebhook id w vars ledger).failure = some failure := by
  unfold webhookOutcome at h
  unfold stepWebhook
  simp only at h ⊢
  rw [h]

theorem stepAi_failure {p : Prompt} (h : engine.aiOutcome p vars ledger = .error failure) :
    (engine.stepAi id p vars ledger).failure = some failure := by
  unfold aiOutcome at h
  unfold stepAi
  simp only at h ⊢
  rw [h]

end Engine

/-- A call that a run waits for: how long its reply takes, and how long it is waited for at most. -/
structure Call where
  replyMs : Nat
  timeoutMs : Nat

namespace Call

/-- Whether the reply comes too late. -/
def Late (c : Call) : Prop := c.timeoutMs < c.replyMs

/-- How long the run waits. -/
def waitedMs (c : Call) : Nat := min c.replyMs c.timeoutMs

end Call

namespace Visit

/-- The reply to the call of a visit at a webhook. -/
def webhookReply (engine : Engine) (w : Webhook) (v : Visit) : Reply WebhookResponse :=
  engine.services.webhook v.ledger.webhooks.length (Engine.webhookRequest engine.config w v.vars)

/-- The reply to the request of a visit at a node for a generated reply. -/
def aiReply (engine : Engine) (p : Prompt) (v : Visit) : Reply AiResponse :=
  engine.services.ai v.ledger.ais.length (Engine.aiRequest p v.vars)

/-- The call that a visit makes, with the limit of the node or else of the settings. -/
def call? (engine : Engine) (v : Visit) : Option Call := match v.node.kind with
  | .webhook w => some ⟨(v.webhookReply engine w).delayMs, w.timeoutMs.getD engine.config.webhookTimeoutMs⟩
  | .aiResponse p => some ⟨(v.aiReply engine p).delayMs, engine.config.aiTimeoutMs⟩
  | _ => none

/-- The call of a visit, if it makes one, gets replies of two engines that it cannot tell apart. -/
def Indistinct (engine other : Engine) (v : Visit) : Prop := match v.node.kind with
  | .webhook w => (v.webhookReply engine w).Indistinct (w.timeoutMs.getD engine.config.webhookTimeoutMs)
      (v.webhookReply other w)
  | .aiResponse p => (v.aiReply engine p).Indistinct engine.config.aiTimeoutMs (v.aiReply other p)
  | _ => True

/-- A visit is executed alike on replies that it cannot tell apart. -/
theorem report_of_indistinct {config : Config} {services services' : Services} (hexact : services.timer.Exact)
    (hexact' : services'.timer.Exact) {v : Visit} (h : v.Indistinct ⟨config, services⟩ ⟨config, services'⟩) :
    v.report ⟨config, services'⟩ = v.report ⟨config, services⟩ := by
  have htimer : services'.timer = services.timer := hexact.eq hexact'
  obtain ⟨⟨id, label, kind⟩, vars, ledger⟩ := v
  cases kind with
  | webhook w =>
    have hreply := Reply.Indistinct.within_eq hexact h
    unfold webhookReply at hreply
    show Engine.stepWebhook _ id w vars ledger = Engine.stepWebhook _ id w vars ledger
    unfold Engine.stepWebhook
    simp only
    rw [htimer, show Reply.within _ _ (Engine.webhookRequest config w vars).timeoutMs = _ from hreply]
    rfl
  | aiResponse p =>
    have hreply := Reply.Indistinct.within_eq hexact h
    unfold aiReply at hreply
    show Engine.stepAi _ id p vars ledger = Engine.stepAi _ id p vars ledger
    unfold Engine.stepAi
    simp only
    rw [htimer, show Reply.within _ _ config.aiTimeoutMs = _ from hreply]
  | delay d =>
    show Engine.stepDelay _ id d vars ledger = Engine.stepDelay _ id d vars ledger
    unfold Engine.stepDelay
    simp only
    rw [htimer]
  | _ => rfl

/-- A call whose reply comes too late has timed out. -/
theorem failure_of_late {engine : Engine} (hexact : engine.services.timer.Exact) {v : Visit} {c : Call}
    (hc : v.call? engine = some c) (hlate : c.Late) : (v.report engine).failure = some (.timeout c.timeoutMs) := by
  obtain ⟨⟨id, label, kind⟩, vars, ledger⟩ := v
  cases kind with
  | webhook w =>
    cases hc
    exact Engine.stepWebhook_failure (congrArg Prod.fst (Reply.within_of_late hexact hlate))
  | aiResponse p =>
    cases hc
    exact Engine.stepAi_failure (congrArg Prod.fst (Reply.within_of_late hexact hlate))
  | _ => cases hc

/-- How long a visit is to pause the run. -/
def pauseMs (config : Config) (v : Visit) : Nat := match v.node.kind, config.delayPolicy with
  | .delay d, .sleep => Delay.waitMs (d.effective config.maxDelaySeconds)
  | _, _ => 0

/-- A visit takes as long as its call is waited for, or as long as it pauses. -/
theorem report_clock {engine : Engine} (hexact : engine.services.timer.Exact) (v : Visit) :
    (v.report engine).ledger.clockMs = v.ledger.clockMs + ((v.call? engine).toList.map Call.waitedMs).sum + v.pauseMs engine.config := by
  obtain ⟨⟨id, label, kind⟩, vars, ledger⟩ := v
  cases kind with
  | condition branches =>
    show (Engine.stepCondition id branches vars ledger).ledger.clockMs = ledger.clockMs
    unfold Engine.stepCondition
    cases Engine.takenBranch? vars branches <;> rfl
  | webhook w =>
    have hwaited := Reply.within_waited hexact (webhookReply engine w ⟨⟨id, label, .webhook w⟩, vars, ledger⟩)
      (w.timeoutMs.getD engine.config.webhookTimeoutMs)
    show (engine.stepWebhook id w vars ledger).ledger.clockMs = ledger.clockMs + (min _ _ + 0) + 0
    rw [← hwaited]
    unfold Engine.stepWebhook
    simp only
    split <;> rfl
  | aiResponse p =>
    have hwaited := Reply.within_waited hexact (aiReply engine p ⟨⟨id, label, .aiResponse p⟩, vars, ledger⟩)
      engine.config.aiTimeoutMs
    show (engine.stepAi id p vars ledger).ledger.clockMs = ledger.clockMs + (min _ _ + 0) + 0
    rw [← hwaited]
    unfold Engine.stepAi
    simp only
    split <;> rfl
  | delay d =>
    show (engine.stepDelay id d vars ledger).ledger.clockMs = ledger.clockMs + pauseMs engine.config _
    unfold Engine.stepDelay pauseMs
    cases engine.config.delayPolicy with
    | sleep => exact congrArg (ledger.clockMs + ·) (hexact _)
    | skip => rfl
  | _ => rfl

end Visit

/-! ## Runs -/

/-- A trail takes as long as its calls are waited for, and as long as it pauses. -/
theorem Trail.clock_eq {engine : Engine} (hexact : engine.services.timer.Exact) {flow : Flow} {entry : Option String}
    {origin p : Progress} {visits : List Visit} {next : Option String}
    (h : Trail engine flow entry origin visits next p) :
    p.ledger.clockMs = origin.ledger.clockMs +
      ((visits.filterMap (Visit.call? engine)).map Call.waitedMs).sum +
      (visits.map (Visit.pauseMs engine.config)).sum := by
  induction h with
  | start => rfl
  | @visit visits id p node _ _ ih =>
    have hstep := Visit.report_clock hexact ⟨node, p.session.vars, p.ledger⟩
    rw [List.filterMap_append, List.map_append, List.map_append, List.sum_append, List.sum_append]
    show (Visit.report engine ⟨node, p.session.vars, p.ledger⟩).ledger.clockMs = _
    rw [hstep, ih]
    cases hc : Visit.call? engine ⟨node, p.session.vars, p.ledger⟩ <;> simp [hc] <;> omega

/-- The flow of a quote: the price and the stock are fetched, with a limit for each, and put into words. -/
def Flow.quote (priceLimitMs stockLimitMs : Nat) : Flow where
  id := "quote"
  slug := "quote"
  name := none
  nodes := [⟨"start", none, .trigger⟩,
    ⟨"price", none, .webhook ⟨"http://shop/price", "GET", .empty, none, some priceLimitMs, "price"⟩⟩,
    ⟨"stock", none, .webhook ⟨"http://shop/stock", "GET", .empty, none, some stockLimitMs, "stock"⟩⟩,
    ⟨"offer", none, .aiResponse ⟨"", "{{price.body}}, {{stock.body}}", none, none, none, "offer"⟩⟩]
  connections := [⟨"start", "price", none⟩, ⟨"price", "stock", none⟩, ⟨"stock", "offer", none⟩]
  trigger := .default
  defaults := .empty

namespace Engine

section

variable {engine : Engine} {flow : Flow} {session : Option Session} {inbound : String} {ledger : Ledger}

theorem run_clock (hexact : engine.services.timer.Exact) (flow : Flow) (session : Option Session) (inbound : String)
    (ledger : Ledger) : (engine.run flow session inbound ledger).2.clockMs = ledger.clockMs +
      (((engine.visits flow session inbound ledger).filterMap (Visit.call? engine)).map Call.waitedMs).sum +
      ((engine.visits flow session inbound ledger).map (Visit.pauseMs engine.config)).sum := by
  obtain ⟨next, p, h⟩ := engine.visits_course flow session inbound ledger
  rw [h.stop.ledger_eq]
  exact h.trail.clock_eq hexact

/-- Services whose replies to the calls of a run it cannot tell apart give that run. -/
theorem run_of_indistinct {config : Config} {services services' : Services} (hexact : services.timer.Exact)
    (hexact' : services'.timer.Exact)
    (h : ∀ v ∈ Engine.visits ⟨config, services⟩ flow session inbound ledger,
      v.Indistinct ⟨config, services⟩ ⟨config, services'⟩) :
    Engine.run ⟨config, services'⟩ flow session inbound ledger =
      Engine.run ⟨config, services⟩ flow session inbound ledger := by
  have hlockstep : Lockstep ⟨config, services⟩ ⟨config, services'⟩ flow flow (· = ·) (· = ·) :=
    .ofLookups rfl (fun _ => rfl) (fun _ => rfl) fun hpq => congrArg Progress.last hpq.symm
  exact hlockstep.run_eq rfl fun v hv => Visit.report_of_indistinct hexact hexact' (h v hv)

/-- What a run shows of a step whose call has failed: its record, an error, the marker in its variable and a notice
to the user, all with the message of the failure. -/
structure FailsAt (engine : Engine) (flow : Flow) (session : Option Session) (inbound : String) (ledger : Ledger)
    (i : Nat) (node : Node) (failure : Failure) : Prop where
  record : (engine.run flow session inbound ledger).1.trace.steps[i]? =
    some ⟨i + 1, node.id, node.kind.name, .failed, some failure.message⟩
  fault : ⟨node.id, failure.message⟩ ∈ (engine.run flow session inbound ledger).1.trace.faults
  marker : ∃ name, node.variableName? = some name ∧ engine.varsAfter flow session inbound ledger (i + 1) =
    (engine.varsAfter flow session inbound ledger i).store name failure.marker
  notice : ∃ lead, .system (some node.id) (lead ++ failure.message) ∈
    (engine.run flow session inbound ledger).1.responses

theorem run_failed {i : Nat} {v : Visit} {failure : Failure}
    (hv : (engine.visits flow session inbound ledger)[i]? = some v)
    (hfailure : (v.report engine).failure = some failure) :
    engine.FailsAt flow session inbound ledger i v.node failure := by
  have hmem : v ∈ engine.visits flow session inbound ledger := List.mem_of_getElem? hv
  obtain ⟨-, ⟨name, hname, hvars⟩, ⟨lead, hnotice⟩⟩ := fails_of_failure hfailure
  refine ⟨?_, ?_, ⟨name, hname, ?_⟩, ⟨lead, mem_responses hmem hnotice⟩⟩
  · rw [run_records, List.getElem?_mapIdx, hv]
    show some (StepRecord.mk _ _ _ (v.report engine).outcome (v.report engine).remark) = _
    rw [StepReport.outcome, hfailure, show (v.report engine).remark = _ from remark_of_failure hfailure]
  · obtain ⟨next, p, h⟩ := engine.visits_course flow session inbound ledger
    rw [h.faults_eq]
    exact List.mem_append_left _ (List.mem_filterMap.2 ⟨v, hmem, by rw [Visit.fault?, hfailure]; rfl⟩)
  · rw [varsAfter_succ hv, ← visits_vars hv]
    exact hvars

end

/-- Of a late reply nothing is observed: whatever the flow, the settings, the session and the message, on exact timers
services that answer every call of a run in the same time, and differently at most if they answer late, give that run.
Each late
call has timed out, with its limit in the record, the error, the marker and the notice. A run that keeps no pauses
takes the sum of what its calls are waited for: the reply's time, or else the limit. -/
theorem run_late_unobserved (config : Config) (services services' : Services) (flow : Flow)
    (session : Option Session) (inbound : String) (ledger : Ledger) (hexact : services.timer.Exact)
    (hexact' : services'.timer.Exact)
    (h : ∀ v ∈ Engine.visits ⟨config, services⟩ flow session inbound ledger,
      v.Indistinct ⟨config, services⟩ ⟨config, services'⟩) :
    let engine : Engine := ⟨config, services⟩
    let visits := engine.visits flow session inbound ledger
    let run := engine.run flow session inbound ledger
    Engine.run ⟨config, services'⟩ flow session inbound ledger = run ∧
    (∀ i v c, visits[i]? = some v → v.call? engine = some c → c.Late →
      engine.FailsAt flow session inbound ledger i v.node (.timeout c.timeoutMs)) ∧
    (config.delayPolicy = .skip → run.2.clockMs = ledger.clockMs +
      ((visits.filterMap (Visit.call? engine)).map Call.waitedMs).sum) := by
  intro engine visits run
  refine ⟨run_of_indistinct hexact hexact' h,
    fun i v c hv hc hlate => run_failed hv (Visit.failure_of_late hexact hc hlate), fun hskip => ?_⟩
  -- without pauses only the calls take time
  have hpauses : (visits.map (Visit.pauseMs config)).sum = 0 := by
    refine List.sum_eq_zero_iff_forall_eq_nat.2 fun ms hms => ?_
    obtain ⟨v, -, rfl⟩ := List.mem_map.1 hms
    unfold Visit.pauseMs
    rw [hskip]
    cases v.node.kind <;> rfl
  have hclock : run.2.clockMs = _ := run_clock hexact flow session inbound ledger
  rw [hclock, show (visits.map (Visit.pauseMs engine.config)).sum = 0 from hpauses, Nat.add_zero]

/-- The price and the words come late, in one case well and in the other not at all; the stock comes in time. -/
theorem run_late_unobserved_quote :
    let stock : Reply WebhookResponse := ⟨20, .ok ⟨200, .text "12"⟩⟩
    let late : Services := .ofScripts [⟨900, .ok ⟨200, .text "7"⟩⟩, stock] [⟨40000, .ok ⟨"Buy!"⟩⟩]
    let failing : Services :=
      .ofScripts [⟨900, .error (.transport "reset")⟩, stock] [⟨40000, .error (.provider "down")⟩]
    let config : Config := { Config.default with delayPolicy := .skip }
    let engine : Engine := ⟨config, late⟩
    let visits := engine.visits (.quote 500 500) none "hi" .empty
    let run := engine.run (.quote 500 500) none "hi" .empty
    (late.timer.Exact ∧ failing.timer.Exact) ∧
    (∀ v ∈ visits, v.Indistinct engine ⟨config, failing⟩) ∧
    (run.1.trace.count .failed = 2 ∧ run.2.clockMs = 30520) ∧
    Engine.run ⟨config, failing⟩ (.quote 500 500) none "hi" .empty = run ∧
    (∀ i v c, visits[i]? = some v → v.call? engine = some c → c.Late →
      engine.FailsAt (.quote 500 500) none "hi" .empty i v.node (.timeout c.timeoutMs)) ∧
    config.delayPolicy = .skip ∧
    run.2.clockMs = Ledger.empty.clockMs + ((visits.filterMap (Visit.call? engine)).map Call.waitedMs).sum := by
  intro stock late failing config engine visits run
  have hwebhook : ∀ call request, (late.webhook call request).Indistinct 500 (failing.webhook call request)
    | 0, _ => .of_late rfl (show 500 < 900 by decide)
    | 1, _ => .refl stock
    | _ + 2, _ => .refl stock
  have hai : ∀ call request, (late.ai call request).Indistinct 30000 (failing.ai call request)
    | 0, _ => .of_late rfl (show 30000 < 40000 by decide)
    | _ + 1, _ => .of_late rfl (show 30000 < 40000 by decide)
  -- by node, for the replies come late whichever call they answer
  have hvisits : ∀ v ∈ visits, v.Indistinct engine ⟨config, failing⟩ := by
    intro v hv
    have hnode : v.node ∈ (Flow.quote 500 500).nodes := Flow.node?_mem (visits_node? hv)
    obtain ⟨node, vars, ledger⟩ := v
    simp only [Flow.quote, List.mem_cons, List.not_mem_nil, or_false] at hnode
    rcases hnode with rfl | rfl | rfl | rfl
    · trivial
    · exact hwebhook ..
    · exact hwebhook ..
    · exact hai ..
  obtain ⟨hrun, hlate, hclock⟩ :=
    run_late_unobserved config late failing (.quote 500 500) none "hi" .empty Timer.exact_exact Timer.exact_exact hvisits
  exact ⟨⟨Timer.exact_exact, Timer.exact_exact⟩, hvisits, by decide +kernel, hrun, hlate, rfl, hclock rfl⟩

end Engine

end Dialogue
