/-
A conversation is one connected walk. A turn that is not completed is parked on a question, and a session
so parked is resumed there: the next turn stores the answer and goes on behind the question. So no turn of
a conversation finds a session that waits on something else, and none but the first starts the flow.
-/
import Dialogue.Proofs.Run.Ending
import Dialogue.Run.Conversation

namespace Dialogue

/-! ## Resuming -/

namespace Engine

/-- A session waits, but on no question of the flow; a run starts the flow again. -/
def Stale (flow : Flow) (session : Session) : Prop := session.awaiting ≠ none ∧ resumed? flow session = none

theorem not_stale_new (flow : Flow) : ¬ Stale flow .new := fun h => h.1 rfl

/-- A session is resumed on the question of the flow that it waits on. -/
theorem resumed?_eq_some_iff {flow : Flow} {session : Session} {node : Node} {q : Question} :
    resumed? flow session = some (node, q) ↔
      session.awaiting = some node.id ∧ flow.node? node.id = some node ∧ node.kind = .question q := by
  have hquestion : node.question? = some q ↔ node.kind = .question q := by
    unfold Node.question?
    cases node.kind <;> simp
  rw [← hquestion]
  unfold resumed?
  constructor
  · intro h
    obtain ⟨id, hid, h⟩ := Option.bind_eq_some_iff.1 h
    obtain ⟨n, hn, h⟩ := Option.bind_eq_some_iff.1 h
    obtain ⟨_, hq, heq⟩ := Option.bind_eq_some_iff.1 h
    cases heq
    exact ⟨by rw [hid, Flow.node?_id hn], Flow.node?_self hn, hq⟩
  · rintro ⟨hawaiting, hfound, hq⟩
    rw [hawaiting]
    show (flow.node? node.id).bind _ = _
    rw [hfound]
    show node.question?.bind _ = _
    rw [hq]
    rfl

/-- The session of a parked result is resumed on its question. -/
theorem resumed?_of_parked {flow : Flow} {r : Result} {node : Node} {q : Question} (h : Parked flow r node q) :
    resumed? flow r.session = some (node, q) :=
  resumed?_eq_some_iff.2 ⟨Session.awaiting_eq_some_iff.2 ⟨h.waiting, h.current⟩, h.found, h.kind⟩

theorem opening_of_resumed {flow : Flow} {session : Session} {node : Node} {q : Question}
    (h : resumed? flow session = some (node, q)) (inbound : String) : opening flow session inbound =
      ({ session with vars := session.vars.store q.variableName (.text (q.resolve inbound)) }, some node.id) := by
  unfold opening
  rw [h]

/-- A resumed run walks on behind the question, the answer stored. -/
theorem run_of_resumed (engine : Engine) {flow : Flow} {session : Session} {node : Node} {q : Question}
    (h : resumed? flow session = some (node, q)) (inbound : String) (ledger : Ledger) :
    engine.run flow (some session) inbound ledger =
      engine.walk flow engine.config.maxSteps (flow.next? node.id)
        ⟨some node.id, { session with vars := session.vars.store q.variableName (.text (q.resolve inbound)) },
          [], 0, .empty, ledger⟩ := by
  unfold run
  rw [Option.getD_some, opening_of_resumed h]
  rfl

/-- The first node that a run executes is the one at its entrance. -/
theorem Course.entrance?_of_head {engine : Engine} {flow : Flow} {session : Option Session} {inbound : String}
    {ledger : Ledger} {visits : List Visit} {next : Option String} {p : Progress}
    (h : Course engine flow session inbound ledger visits next p) {r : StepRecord}
    (hr : (engine.run flow session inbound ledger).1.trace.steps.head? = some r) :
    entrance? flow session inbound = some r.node := by
  rw [h.records_eq, List.head?_mapIdx] at hr
  obtain ⟨v, hv, rfl⟩ := Option.map_eq_some_iff.1 hr
  exact h.trail.head_visit v hv

theorem entrance?_of_resumed {flow : Flow} {session : Session} {node : Node} {q : Question}
    (h : resumed? flow session = some (node, q)) (inbound : String) :
    entrance? flow (some session) inbound = flow.next? node.id := by
  unfold entrance?
  rw [Option.getD_some, opening_of_resumed h]
  rfl

end Engine

/-! ## Turns -/

/-- The turns of a conversation that goes on from a session, each in front of those that follow it. -/
def Engine.turnsFrom (engine : Engine) (flow : Flow) :
    Option Session → List String → Ledger → List Turn × Ledger
  | _, [], ledger => ([], ledger)
  | session, inbound :: rest, ledger =>
    let (result, ledger) := engine.run flow session inbound ledger
    if result.completed then ([⟨inbound, result⟩], ledger)
    else
      let (turns, ledger) := engine.turnsFrom flow (some result.session) rest ledger
      (⟨inbound, result⟩ :: turns, ledger)

/-- A conversation after some turns: it goes on from the session that the last of them left. -/
def Talk.of (turns : List Turn) : Talk :=
  ⟨turns, turns.getLast?.map (·.result.session), turns.getLast?.map (·.result.termination)⟩

theorem Talk.of_eq_of_last {turns : List Turn} {t : Turn} (h : turns.getLast? = some t) :
    Talk.of turns = ⟨turns, some t.result.session, some t.result.termination⟩ := by
  unfold Talk.of
  rw [h]
  rfl

theorem Talk.of_after (turns : List Turn) (inbound : String) (result : Result) :
    (Talk.of turns).after inbound result = .of (turns ++ [⟨inbound, result⟩]) :=
  (Talk.of_eq_of_last List.getLast?_concat).symm

/-- A conversation goes on with the turns from its session, and ends with the session of the last of them. -/
theorem Engine.talk_of (engine : Engine) (flow : Flow) (done : List Turn) (inputs : List String) (ledger : Ledger) :
    engine.talk flow (.of done) inputs ledger =
      let later := engine.turnsFrom flow (Talk.of done).session inputs ledger
      (.of (done ++ later.1), later.2) := by
  induction inputs generalizing done ledger with
  | nil =>
    rw [talk, turnsFrom]
    simp only [List.append_nil]
  | cons inbound rest ih =>
    rw [talk, turnsFrom]
    simp only [Talk.of_after]
    cases (engine.run flow (Talk.of done).session inbound ledger).1.completed with
    | true => rfl
    | false =>
      -- the session of the turn just made is the one to go on from
      have hsession (t : Turn) : (Talk.of (done ++ [t])).session = some t.result.session :=
        congrArg Talk.session (Talk.of_eq_of_last List.getLast?_concat)
      simp only [Bool.false_eq_true, if_false, ih, hsession, List.append_assoc, List.singleton_append]

/-- A conversation consists of the turns from no session, and ends as the last of them does. -/
theorem Engine.converse_eq (engine : Engine) (flow : Flow) (inputs : List String) (ledger : Ledger) :
    engine.converse flow inputs ledger =
      let turns := engine.turnsFrom flow none inputs ledger
      ((Talk.of turns.1).conversation, turns.2) := by
  unfold converse
  rw [show Talk.start = .of [] from rfl, talk_of]
  rfl

/-- The turns of a conversation that goes on from a session: each is a run on the session that the turn
before it left, and a completed turn is the last one. -/
inductive Exchange (engine : Engine) (flow : Flow) : Option Session → List String → List Turn → Prop
  | silent {session : Option Session} : Exchange engine flow session [] []
  | closed {session : Option Session} {inbound : String} {rest : List String} {result : Result} {ledger : Ledger} :
    result = (engine.run flow session inbound ledger).1 → result.completed = true →
      Exchange engine flow session (inbound :: rest) [⟨inbound, result⟩]
  | more {session : Option Session} {inbound : String} {rest : List String} {result : Result} {ledger : Ledger}
    {turns : List Turn} : result = (engine.run flow session inbound ledger).1 → result.completed = false →
      Exchange engine flow (some result.session) rest turns →
      Exchange engine flow session (inbound :: rest) (⟨inbound, result⟩ :: turns)

theorem Engine.turnsFrom_exchange (engine : Engine) (flow : Flow) (inputs : List String)
    (session : Option Session) (ledger : Ledger) :
    Exchange engine flow session inputs (engine.turnsFrom flow session inputs ledger).1 := by
  induction inputs generalizing session ledger with
  | nil => exact .silent
  | cons inbound rest ih =>
    unfold turnsFrom
    by_cases hc : (engine.run flow session inbound ledger).1.completed = true
    · simp only [hc, if_true]
      exact .closed rfl hc
    · rw [Bool.not_eq_true] at hc
      simp only [hc, Bool.false_eq_true, if_false]
      exact .more rfl hc (ih _ _)

theorem Engine.converse_exchange (engine : Engine) (flow : Flow) (inputs : List String) (ledger : Ledger) :
    Exchange engine flow none inputs (engine.converse flow inputs ledger).1.turns := by
  rw [converse_eq]
  exact engine.turnsFrom_exchange flow inputs none ledger

/-- The session before a turn: that of the turn before it, or the one that the conversation came from. -/
def Turn.sessionBefore (first : Option Session) (turns : List Turn) : Nat → Option Session
  | 0 => first
  | i + 1 => turns[i]?.map (·.result.session)

/-- Behind the first turn, the sessions are those of a conversation that came from it. -/
theorem Turn.sessionBefore_cons (first : Option Session) (t : Turn) (turns : List Turn) (i : Nat) :
    sessionBefore first (t :: turns) (i + 1) = sessionBefore (some t.result.session) turns i := by
  cases i <;> rfl

namespace Exchange

variable {engine : Engine} {flow : Flow} {first : Option Session} {inputs : List String} {turns : List Turn}
  {i : Nat} {t : Turn}

/-- Every turn is a run on its message and on the session before it. -/
theorem turn (h : Exchange engine flow first inputs turns) (ht : turns[i]? = some t) :
    inputs[i]? = some t.inbound ∧
      ∃ ledger, t.result = (engine.run flow (Turn.sessionBefore first turns i) t.inbound ledger).1 := by
  induction h generalizing i with
  | silent => cases ht
  | closed hr _ =>
    cases i with
    | zero => cases ht; exact ⟨rfl, _, hr⟩
    | succ i => cases ht
  | more hr _ _ ih =>
    cases i with
    | zero => cases ht; exact ⟨rfl, _, hr⟩
    | succ i =>
      rw [Turn.sessionBefore_cons]
      exact ih ht

/-- A completed turn is the last one; any other turn is followed by one on the next message, if there is one. -/
theorem following (h : Exchange engine flow first inputs turns) (ht : turns[i]? = some t) :
    if t.result.completed then turns[i + 1]? = none
    else (turns[i + 1]?).map (·.inbound) = inputs[i + 1]? := by
  induction h generalizing i with
  | silent => cases ht
  | closed _ hc =>
    cases i with
    | zero => cases ht; rw [if_pos hc]; rfl
    | succ i => cases ht
  | more _ hc hrest ih =>
    cases i with
    | zero =>
      cases ht
      rw [if_neg (ne_true_of_eq_false hc)]
      cases hrest <;> rfl
    | succ i => exact ih ht

/-- A turn that is not completed is parked on a question. -/
theorem parked (h : Exchange engine flow first inputs turns) (ht : turns[i]? = some t)
    (hc : t.result.completed = false) : ∃ node q, Parked flow t.result node q := by
  obtain ⟨-, ledger, hr⟩ := h.turn ht
  obtain ⟨visits, next, p, hcourse⟩ :=
    Engine.run_course engine flow (Turn.sessionBefore first turns i) t.inbound ledger
  rw [hr] at hc ⊢
  refine hcourse.parked ?_
  by_cases hw : (engine.run flow (Turn.sessionBefore first turns i) t.inbound ledger).1.termination = .awaitingInput
  · exact hw
  · rw [Result.completed_iff.2 hw] at hc
    cases hc

/-- Every turn but the first is handed the session of a turn that is parked on a question. -/
theorem parked_before (h : Exchange engine flow first inputs turns) (ht : turns[i + 1]? = some t) :
    ∃ s node q, turns[i]? = some s ∧ Parked flow s.result node q := by
  -- a completed turn would have been the last one
  obtain ⟨s, hs⟩ : ∃ s, turns[i]? = some s := by
    have hlt : i + 1 < turns.length := (List.getElem?_eq_some_iff.1 ht).1
    exact ⟨_, List.getElem?_eq_getElem (Nat.lt_of_succ_lt hlt)⟩
  cases hc : s.result.completed with
  | true =>
    have hlast := h.following hs
    rw [if_pos hc, ht] at hlast
    cases hlast
  | false =>
    obtain ⟨node, q, hp⟩ := h.parked hs hc
    exact ⟨s, node, q, hs, hp⟩

/-- No turn of a conversation that begins without a session restarts the flow. -/
theorem not_stale (h : Exchange engine flow none inputs turns) (ht : turns[i]? = some t) :
    ¬ Engine.Stale flow ((Turn.sessionBefore none turns i).getD .new) := by
  cases i with
  | zero => exact Engine.not_stale_new flow
  | succ i =>
    obtain ⟨s, node, q, hs, hp⟩ := h.parked_before ht
    show ¬ Engine.Stale flow ((turns[i]?.map (·.result.session)).getD .new)
    rw [hs]
    intro hstale
    have hnone : Engine.resumed? flow s.result.session = none := hstale.2
    rw [Engine.resumed?_of_parked hp] at hnone
    cases hnone

end Exchange

/-! ## Conversations -/

/-- A question with thanks behind it. -/
def Flow.survey : Flow where
  id := "survey"
  slug := "survey"
  name := none
  nodes := [⟨"start", none, .trigger⟩, ⟨"ask", none, .question ⟨"Your name?", "name", []⟩⟩,
    ⟨"thanks", none, .message "Thanks"⟩]
  connections := [⟨"start", "ask", none⟩, ⟨"ask", "thanks", none⟩]
  trigger := .default
  defaults := .empty

namespace Engine

/-- A conversation from no session is one walk, whatever its length and whatever the services answer. Every
turn is a run on the session before it, which never is stale; a completed turn is the last; any other turn
is parked on a question, and the next message goes on behind that question, the answer stored and no other
variable touched. -/
theorem converse_resumes (engine : Engine) (flow : Flow) (inputs : List String) (ledger : Ledger) :
    let turns := (engine.converse flow inputs ledger).1.turns
    ∀ i t, turns[i]? = some t →
      (inputs[i]? = some t.inbound ∧
        (∃ ledger, t.result = (engine.run flow (Turn.sessionBefore none turns i) t.inbound ledger).1) ∧
        ¬ Stale flow ((Turn.sessionBefore none turns i).getD .new)) ∧
      (t.result.completed = true → turns[i + 1]? = none) ∧
      (t.result.completed = false → ∃ node q, Parked flow t.result node q ∧
        ∀ inbound, inputs[i + 1]? = some inbound → ∃ u, turns[i + 1]? = some u ∧ u.inbound = inbound ∧
          (∀ r, u.result.trace.steps.head? = some r → flow.next? node.id = some r.node) ∧
          ∃ vars ledger,
            (∀ key, vars.get? key = if key = q.variableName ∧ q.variableName ≠ ""
              then some (.text (q.resolve inbound)) else t.result.session.vars.get? key) ∧
            u.result = (engine.walk flow engine.config.maxSteps (flow.next? node.id)
              ⟨some node.id, { t.result.session with vars := vars }, [], 0, .empty, ledger⟩).1) := by
  have h := engine.converse_exchange flow inputs ledger
  intro turns i t ht
  have hfollowing := h.following ht
  refine ⟨⟨(h.turn ht).1, (h.turn ht).2, h.not_stale ht⟩, fun hc => ?_, fun hc => ?_⟩
  · rw [if_pos hc] at hfollowing
    exact hfollowing
  · -- the question is the one that resuming finds
    obtain ⟨node, q, hp⟩ := h.parked ht hc
    refine ⟨node, q, hp, fun inbound hin => ?_⟩
    rw [if_neg (ne_true_of_eq_false hc), hin] at hfollowing
    obtain ⟨u, hu, rfl⟩ := Option.map_eq_some_iff.1 hfollowing
    have hresumed := resumed?_of_parked hp
    obtain ⟨-, ledger', hr⟩ := h.turn hu
    have hbefore : Turn.sessionBefore none turns (i + 1) = some t.result.session := by
      show turns[i]?.map _ = _
      rw [ht]
      rfl
    rw [hbefore] at hr
    refine ⟨u, hu, rfl, fun r hhead => ?_, _, ledger', fun key => Variables.get?_store .., ?_⟩
    · obtain ⟨visits, next, p, hcourse⟩ := run_course engine flow (some t.result.session) u.inbound ledger'
      rw [hr] at hhead
      rw [← hcourse.entrance?_of_head hhead, entrance?_of_resumed hresumed]
    · rw [hr, run_of_resumed engine hresumed]

/-- The first turn asks, and the second goes on behind the question. -/
theorem converse_resumes_survey :
    let engine : Engine := ⟨.default, .none⟩
    let turns := (engine.converse .survey ["hi", "Ada"] .empty).1.turns
    ∃ t u node q, turns[0]? = some t ∧ t.result.completed = false ∧ Parked .survey t.result node q ∧
      turns[1]? = some u ∧ u.inbound = "Ada" ∧
      (∀ r, u.result.trace.steps.head? = some r → Flow.survey.next? node.id = some r.node) ∧
      ∃ vars ledger,
        (∀ key, vars.get? key = if key = q.variableName ∧ q.variableName ≠ ""
          then some (.text (q.resolve "Ada")) else t.result.session.vars.get? key) ∧
        u.result = (engine.walk .survey engine.config.maxSteps (Flow.survey.next? node.id)
          ⟨some node.id, { t.result.session with vars := vars }, [], 0, .empty, ledger⟩).1 := by
  intro engine turns
  have hfirst : turns[0]?.map (·.result.completed) = some false := by decide +kernel
  obtain ⟨t, ht, hc⟩ := Option.map_eq_some_iff.1 hfirst
  obtain ⟨-, -, hopen⟩ := converse_resumes engine .survey ["hi", "Ada"] .empty 0 t ht
  obtain ⟨node, q, hp, hnext⟩ := hopen hc
  obtain ⟨u, hu, hin, hrest⟩ := hnext "Ada" rfl
  exact ⟨t, u, node, q, ht, hc, hp, hu, hin, hrest⟩

end Engine

end Dialogue
