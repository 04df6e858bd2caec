/-
What the search for unreachable nodes is worth to a conversation: a node that any of its turns executes is never
reported. A walk comes to a node along an edge, and the search knows every edge, also those that no walk takes;
it begins where a conversation begins; and a question on which a turn is parked has been executed, so the search
has found it, and the next turn goes on behind it. Turns are here those of any conversation that comes from no
session, with settings and services that change between turns, and with messages after a completed turn.
-/
import Dialogue.Proofs.Flow.Reach
import Dialogue.Proofs.Lint.Findings
import Dialogue.Proofs.Run.Resumption

namespace Dialogue

/-! ## Conversations of any kind -/

/-- A message, and all that its turn depends on besides the flow and the session: the settings and services with
which it is answered, and the ledger so far. -/
structure Incoming where
  engine : Engine
  inbound : String
  ledger : Ledger

/-- The turns about some messages, each on the session that the turn before it left, completed or not. -/
def Flow.turns (f : Flow) : Option Session → List Incoming → List Turn
  | _, [] => []
  | session, m :: rest =>
    let result := (m.engine.run f session m.inbound m.ledger).1
    ⟨m.inbound, result⟩ :: f.turns (some result.session) rest

/-- The turns of a conversation that stops with its first completed turn are such turns. -/
theorem Exchange.turns_eq {engine : Engine} {flow : Flow} {session : Option Session} {inputs : List String}
    {turns : List Turn} (h : Exchange engine flow session inputs turns) :
    ∃ messages, flow.turns session messages = turns := by
  induction h with
  | silent => exact ⟨[], rfl⟩
  | @closed session inbound rest result ledger hr _ =>
    subst hr
    exact ⟨[⟨engine, inbound, ledger⟩], rfl⟩
  | @more session inbound rest result ledger turns hr _ _ ih =>
    subst hr
    obtain ⟨messages, hm⟩ := ih
    exact ⟨⟨engine, inbound, ledger⟩ :: messages, by rw [Flow.turns, hm]⟩

/-! ## Walks among the ids that are found -/

/-- The ids in a trace: of the nodes executed, and of those that an error is noted for. -/
def Trace.ids (t : Trace) : List String := t.path ++ t.faults.map (·.node)

/-- A session waits on an id that the search finds, if it waits at all. -/
def Session.Within (flow : Flow) (session : Session) : Prop := ∀ id, session.awaiting = some id → id ∈ flow.reached

theorem Session.within_new (flow : Flow) : Session.Within flow .new := fun _ h => by cases h

/-- A trail that enters at an id that is found keeps to such ids. -/
theorem Trail.mem_reached {engine : Engine} {flow : Flow} {entry : Option String} {origin : Progress}
    {visits : List Visit} {next : Option String} {p : Progress}
    (h : Trail engine flow entry origin visits next p) (hentry : ∀ id, entry = some id → id ∈ flow.reached) :
    (∀ v ∈ visits, v.node.id ∈ flow.reached) ∧ ∀ id, next = some id → id ∈ flow.reached := by
  induction h with
  | start => exact ⟨fun v hv => (List.not_mem_nil hv).elim, hentry⟩
  | @visit visits id p node _ hn ih =>
    -- the trail led to the node visited last, and leaves it along an edge
    have hnode : node.id ∈ flow.reached := by
      rw [Flow.node?_id hn]
      exact ih.2 id rfl
    refine ⟨fun v hv => ?_, fun target htarget => ?_⟩
    · rcases List.mem_append.1 hv with hv | hv
      · exact ih.1 v hv
      · rw [List.mem_singleton.1 hv]
        exact hnode
    · rw [Engine.step_control] at htarget
      exact Flow.target_mem_reached (Flow.onward_mem_edges (Flow.node?_mem hn) htarget) hnode

namespace Engine

theorem origin?_mem_reached {flow : Flow} {session : Session} (h : session.Within flow) {id : String}
    (hid : origin? flow session = some id) : id ∈ flow.reached := by
  unfold origin? at hid
  -- a turn comes from the question that it resumes, and else from the start node
  cases hr : resumed? flow session with
  | some resumed =>
    rw [hr] at hid
    cases hid
    exact h _ (resumed?_eq_some_iff.1 hr).1
  | none =>
    rw [hr] at hid
    obtain ⟨start, hstart, rfl⟩ := Option.map_eq_some_iff.1 hid
    exact Flow.start_mem_reached hstart

/-- A turn on a session within what is found mentions only ids that are found, and leaves such a session. -/
theorem run_within (engine : Engine) (flow : Flow) {session : Option Session}
    (h : (session.getD .new).Within flow) (inbound : String) (ledger : Ledger) :
    let result := (engine.run flow session inbound ledger).1
    (∀ id ∈ result.trace.ids, id ∈ flow.reached) ∧ result.session.Within flow := by
  intro result
  obtain ⟨visits, next, p, hcourse⟩ := run_course engine flow session inbound ledger
  have hentry : ∀ id, entrance? flow session inbound = some id → id ∈ flow.reached := by
    intro id hid
    rw [entrance?_eq] at hid
    obtain ⟨origin, horigin, hnext⟩ := Option.bind_eq_some_iff.1 hid
    exact Flow.target_mem_reached (Flow.next?_mem_edges hnext) (origin?_mem_reached h horigin)
  obtain ⟨hvisits, hnext⟩ := hcourse.trail.mem_reached hentry
  constructor
  · intro id hid
    rcases List.mem_append.1 hid with hid | hid
    · obtain ⟨r, hr, rfl⟩ := List.mem_map.1 hid
      rw [hcourse.records_eq] at hr
      obtain ⟨i, hi, rfl⟩ := List.mem_mapIdx.1 hr
      exact hvisits _ (List.getElem_mem hi)
    · -- an error is noted for a visit, or else for the id that the walk could not go on to
      obtain ⟨fault, hfault, rfl⟩ := List.mem_map.1 hid
      rw [hcourse.faults_eq] at hfault
      rcases List.mem_append.1 hfault with hfault | hfault
      · obtain ⟨v, hv, hfailed⟩ := List.mem_filterMap.1 hfault
        obtain ⟨failure, -, rfl⟩ := Option.map_eq_some_iff.1 hfailed
        exact hvisits v hv
      · obtain ⟨target, htarget, rfl⟩ := List.mem_map.1 hfault
        exact hnext target (Option.mem_toList.1 htarget)
  · intro id hid
    -- only a parked session waits, and it does so on the node executed last
    obtain ⟨hwaiting, hcurrent⟩ := Session.awaiting_eq_some_iff.1 hid
    obtain ⟨node, q, hp⟩ := hcourse.parked (hcourse.stop.waiting_iff.1 hwaiting)
    have heq : some id = some node.id := hcurrent.symm.trans hp.current
    cases heq
    have hlast := hp.last
    rw [hcourse.lastNode?_eq] at hlast
    obtain ⟨v, hv, heq⟩ := Option.map_eq_some_iff.1 hlast
    rw [← heq]
    exact hvisits v (List.mem_of_getLast? hv)

end Engine

theorem Flow.turns_mem_reached {flow : Flow} {messages : List Incoming} {session : Option Session}
    (h : (session.getD .new).Within flow) :
    ∀ t ∈ flow.turns session messages, ∀ id ∈ t.result.trace.ids, id ∈ flow.reached := by
  induction messages generalizing session with
  | nil => intro t ht; cases ht
  | cons m rest ih =>
    obtain ⟨hids, hsession⟩ := m.engine.run_within flow h m.inbound m.ledger
    intro t ht
    rcases List.mem_cons.1 ht with rfl | ht
    · exact hids
    · exact @ih (some _) hsession t ht

/-! ## The report -/

/-- A question that is asked until the answer is known, with a greeting behind it and a node that nothing leads
to. -/
def Flow.riddle : Flow where
  id := "riddle"
  slug := "riddle"
  name := none
  nodes := [⟨"start", none, .trigger⟩, ⟨"ask", none, .question ⟨"Who is it?", "guess", []⟩⟩,
    ⟨"judge", none, .condition [.when "guess == Ada" "right", .otherwise "ask"]⟩,
    ⟨"right", none, .message "So it is"⟩, ⟨"give up", none, .message "It was Ada"⟩]
  connections := [⟨"start", "ask", none⟩, ⟨"ask", "judge", none⟩, ⟨"give up", "right", none⟩]
  trigger := .default
  defaults := .empty

/-- Whatever the flow: no node that a turn executes, and no other that its trace mentions, is reported as
unreachable, in any conversation that comes from no session, whatever the messages and however the settings and the
services change from turn to turn; and so also in a conversation of one engine that stops with its first completed
turn. -/
theorem Flow.executed_not_unreachable (flow : Flow) :
    (∀ (messages : List Incoming), ∀ t ∈ flow.turns none messages, ∀ id ∈ t.result.trace.ids,
      .unreachable id ∉ flow.findings) ∧
    ∀ (engine : Engine) (inputs : List String) (ledger : Ledger),
      ∀ t ∈ (engine.converse flow inputs ledger).1.turns, ∀ id ∈ t.result.trace.ids,
        .unreachable id ∉ flow.findings := by
  have hturns : ∀ (messages : List Incoming), ∀ t ∈ flow.turns none messages, ∀ id ∈ t.result.trace.ids,
      .unreachable id ∉ flow.findings := by
    intro messages t ht id hid hfinding
    obtain ⟨-, -, -, -, hnot⟩ := unreachable_mem_iff.1 hfinding
    exact hnot (turns_mem_reached (Session.within_new flow) t ht id hid)
  refine ⟨hturns, fun engine inputs ledger t ht => ?_⟩
  obtain ⟨messages, hm⟩ := (engine.converse_exchange flow inputs ledger).turns_eq
  exact hturns messages t (hm ▸ ht)

/-- Three turns come through every node but one, and that one is reported. -/
theorem Flow.executed_not_unreachable_riddle :
    let engine : Engine := ⟨.default, .none⟩
    let turns := Flow.riddle.turns none
      [⟨engine, "hi", .empty⟩, ⟨engine, "Bob", .empty⟩, ⟨engine, "Ada", .empty⟩]
    turns.map (·.result.trace.path) = [["ask"], ["judge", "ask"], ["judge", "right"]] ∧
      .unreachable "give up" ∈ Flow.riddle.findings ∧
      ∀ t ∈ turns, ∀ id ∈ t.result.trace.ids, .unreachable id ∉ Flow.riddle.findings :=
  ⟨by decide +kernel, by decide +kernel, Flow.riddle.executed_not_unreachable.1 _⟩

end Dialogue
