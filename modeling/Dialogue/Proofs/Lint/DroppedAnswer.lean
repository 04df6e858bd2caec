/-
When the answer to a question is dropped, and when the report says so. A turn that resumes a question stores the
answer unless the question's variable has the empty name; the report calls an answer dropped when the name has
nothing but blanks. So an answer that is not reported is stored, and the report is right about an answer that it
calls dropped but for names that are blank and not empty: under such a name the answer is stored as under any other.
-/
import Dialogue.Proofs.Lint.Findings
import Dialogue.Proofs.Run.Resumption
import Mathlib.Data.List.Nodup

namespace Dialogue

namespace Flow

variable {flow : Flow} {node : Node} {q : Question}

/-- With every id listed once, a node is found under its id. -/
theorem node?_of_mem (hids : flow.ids.Nodup) (hn : node ∈ flow.nodes) : flow.node? node.id = some node := by
  obtain ⟨found, hf⟩ := Option.isSome_iff_exists.1 (node?_isSome_iff.2 ⟨node, hn, rfl⟩)
  rw [hf, List.inj_on_of_nodup_map hids (node?_mem hf) hn (node?_id hf)]

/-- A session that waits on a question is resumed there. -/
theorem resumed?_of_awaiting (hids : flow.ids.Nodup) (hn : node ∈ flow.nodes) (hq : node.kind = .question q)
    {session : Session} (h : session.awaiting = some node.id) : Engine.resumed? flow session = some (node, q) :=
  Engine.resumed?_eq_some_iff.2 ⟨h, node?_of_mem hids hn, hq⟩

theorem opening_vars_of_awaiting (hids : flow.ids.Nodup) (hn : node ∈ flow.nodes) (hq : node.kind = .question q)
    {session : Session} (h : session.awaiting = some node.id) (inbound : String) :
    (Engine.opening flow session inbound).1.vars = session.vars.store q.variableName (.text (q.resolve inbound)) := by
  rw [Engine.opening_of_resumed (resumed?_of_awaiting hids hn hq h)]

/-- No answer to a question makes a difference to the variables with which a turn goes on. -/
def Drops (flow : Flow) (node : Node) : Prop :=
  ∀ (session : Session) (inbound : String), session.awaiting = some node.id →
    (Engine.opening flow session inbound).1.vars = session.vars

theorem drops_iff (hids : flow.ids.Nodup) (hn : node ∈ flow.nodes) (hq : node.kind = .question q) :
    flow.Drops node ↔ q.variableName = "" := by
  constructor
  · intro h
    by_cases hname : q.variableName = ""
    · exact hname
    · -- a session without variables would have to go on without any
      have hawaiting : Session.awaiting ⟨some node.id, .empty, true⟩ = some node.id := rfl
      have hvars := h _ "" hawaiting
      rw [opening_vars_of_awaiting hids hn hq hawaiting] at hvars
      have hstored := Variables.get?_store .empty q.variableName (.text (q.resolve "")) q.variableName
      rw [hvars, if_pos ⟨rfl, hname⟩] at hstored
      cases hstored
  · intro hname session inbound hawaiting
    rw [opening_vars_of_awaiting hids hn hq hawaiting, Variables.store, if_pos hname]

/-- With every id listed once, the report on a question looks at nothing but the name of its variable. -/
theorem droppedAnswer_mem_iff_isBlankText (hids : flow.ids.Nodup) (hn : node ∈ flow.nodes)
    (hq : node.kind = .question q) :
    .droppedAnswer node.id ∈ flow.findings ↔ Text.isBlankText q.variableName = true := by
  rw [droppedAnswer_mem_iff]
  constructor
  · rintro ⟨n, hmem, hid, q', hq', hblank⟩
    rw [List.inj_on_of_nodup_map hids hmem hn hid, hq] at hq'
    cases hq'
    exact hblank
  · intro hblank
    exact ⟨node, hn, rfl, q, hq, hblank⟩

/-- What becomes of the answer to a question, and what the report says of it. A turn on a session that waits on the
question walks on behind it, the answer stored, if the variable's name is not empty, and nothing stored else. The
report calls the answer dropped when the name is blank. So an answer that is not reported is stored, and the report
is right about a question unless the name is blank and not empty. -/
theorem droppedAnswer_turns (hids : flow.ids.Nodup) (hn : node ∈ flow.nodes) (hq : node.kind = .question q) :
    (∀ (engine : Engine) (session : Session) (inbound : String) (ledger : Ledger), session.awaiting = some node.id →
      let vars := (Engine.opening flow session inbound).1.vars
      let stored := session.vars.insert q.variableName (.text (q.resolve inbound))
      engine.run flow (some session) inbound ledger =
          engine.walk flow engine.config.maxSteps (flow.next? node.id)
            ⟨some node.id, { session with vars := vars }, [], 0, .empty, ledger⟩ ∧
        (q.variableName = "" → vars = session.vars) ∧ (q.variableName ≠ "" → vars = stored) ∧
        (.droppedAnswer node.id ∉ flow.findings → vars = stored)) ∧
      (.droppedAnswer node.id ∈ flow.findings ↔ Text.isBlankText q.variableName = true) ∧
      ((.droppedAnswer node.id ∈ flow.findings ↔ flow.Drops node) ↔
        (Text.isBlankText q.variableName = true → q.variableName = "")) := by
  have hreport := droppedAnswer_mem_iff_isBlankText hids hn hq
  have hempty : q.variableName = "" → Text.isBlankText q.variableName = true := fun h => by rw [h]; rfl
  refine ⟨fun engine session inbound ledger hawaiting => ?_, hreport, ?_⟩
  · intro vars stored
    have hvars : vars = session.vars.store q.variableName (.text (q.resolve inbound)) :=
      opening_vars_of_awaiting hids hn hq hawaiting inbound
    have hstored : q.variableName ≠ "" → vars = stored := fun hname => by rw [hvars, Variables.store, if_neg hname]
    refine ⟨?_, fun hname => ?_, hstored, fun hnot => hstored fun hname => hnot (hreport.2 (hempty hname))⟩
    · rw [Engine.run_of_resumed engine (resumed?_of_awaiting hids hn hq hawaiting), hvars]
    · rw [hvars, Variables.store, if_pos hname]
  · -- an empty name is blank, so only the way back can fail
    rw [hreport, drops_iff hids hn hq]
    exact ⟨Iff.mp, fun h => ⟨h, hempty⟩⟩

/-- The question of the survey is not reported, and its answer is stored. -/
theorem droppedAnswer_turns_survey :
    let ask : Node := ⟨"ask", none, .question ⟨"Your name?", "name", []⟩⟩
    let session : Session := ⟨some "ask", .empty, true⟩
    survey.ids.Nodup ∧ ask ∈ survey.nodes ∧ session.awaiting = some ask.id ∧
      .droppedAnswer ask.id ∉ survey.findings ∧
      (Engine.opening survey session "Ada").1.vars = Dictionary.empty.insert "name" (.text "Ada") := by
  intro ask session
  have hids : survey.ids.Nodup := by decide
  have hask : ask ∈ survey.nodes := List.mem_cons_of_mem _ (List.mem_cons_self ..)
  obtain ⟨hturns, hreport, -⟩ := droppedAnswer_turns hids hask rfl
  have hnot : .droppedAnswer ask.id ∉ survey.findings := fun h => absurd (hreport.1 h) (by decide)
  exact ⟨hids, hask, rfl, hnot, (hturns ⟨.default, .none⟩ session "Ada" .empty rfl).2.2.2 hnot⟩

/-- With a variable whose name is one blank, the answer is reported as dropped, and it is stored. -/
theorem droppedAnswer_blank :
    let ask : Node := ⟨"ask", none, .question ⟨"Your name?", " ", []⟩⟩
    let flow := (Flow.new "blank").withNode ask
    flow.ids.Nodup ∧ .droppedAnswer "ask" ∈ flow.findings ∧
      ((Engine.opening flow ⟨some "ask", .empty, true⟩ "Ada").1.vars.get? " ").map Value.display = some "Ada" := by
  decide +kernel

end Flow

end Dialogue
