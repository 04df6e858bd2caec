/-
What a report holds. It is made of parts, and each kind of finding stands in one of them, so a finding is in the
report exactly when it is in its part. By that, a report without errors says that every edge of the flow ends at
a node; and the report calls a condition unreadable, an answer dropped or a node unreachable only where it is so.
-/
import Dialogue.Lint.Report

namespace Dialogue

/-! ## Parts -/

/-- The parts of a report, in order. -/
inductive ReportPart
  | ids
  | start
  | connections
  | fans
  | nodes
  | reach
  | trigger
deriving DecidableEq

/-- All parts. -/
def ReportPart.all : List ReportPart := [.ids, .start, .connections, .fans, .nodes, .reach, .trigger]

/-- The part that a finding stands in; that there are no nodes is all of a report. -/
def Finding.part? : Finding → Option ReportPart
  | .noNodes => none
  | .blankId => some .ids
  | .repeatedId .. => some .ids
  | .noTrigger _ => some .start
  | .extraTrigger .. => some .start
  | .unknownSource _ => some .connections
  | .unknownTarget .. => some .connections
  | .fannedOut .. => some .fans
  | .droppedAnswer _ => some .nodes
  | .noBranches _ => some .nodes
  | .unreadableCondition .. => some .nodes
  | .unknownGoto .. => some .nodes
  | .noUrl _ => some .nodes
  | .namelessAction _ => some .nodes
  | .unreachable _ => some .reach
  | .silentKeywords => some .trigger

/-- The message of an unreachable node and that of a silent trigger are messages of no other kind of finding. -/
theorem Finding.part?_of_message_eq {x y : Finding} (hy : y.part? = some .reach ∨ y.part? = some .trigger)
    (h : x.message = y.message) : x.part? = y.part? := by
  have hend : ∀ id count, (fannedOut id count).message ≠ y.message := by
    -- the count may be any number, so the texts are told apart at their ends
    intro id count h
    unfold message at h
    have hlast := congrArg (fun s => s.toList.getLast?) h
    cases y with
    | unreachable _ => simp at hlast
    | silentKeywords => simp at hlast
    | _ => simp [part?] at hy
  unfold message at h
  have hstart := congrArg (fun s => s.toList.take 7) h
  cases y with
  | unreachable _ =>
    cases x with
    | unreachable _ => rfl
    | fannedOut id count => exact absurd h (hend id count)
    | _ => simp at hstart
  | silentKeywords =>
    cases x with
    | silentKeywords => rfl
    | fannedOut id count => exact absurd h (hend id count)
    | _ => simp at hstart
  | _ => simp [part?] at hy

namespace Flow

variable {f : Flow} {x : Finding}

/-- The findings in a part of the report. -/
def findingsIn (f : Flow) : ReportPart → List Finding
  | .ids => f.idFindings
  | .start => f.startFindings
  | .connections => f.connections.flatMap f.connectionFindings
  | .fans => f.fanFindings
  | .nodes => f.nodes.flatMap f.nodeFindings
  | .reach => f.reachFindings
  | .trigger => f.triggerFindings

theorem findings_of_nil (hf : f.nodes = []) : f.findings = [.noNodes] := by
  unfold findings
  rw [hf]
  rfl

theorem findings_eq (hf : f.nodes ≠ []) : f.findings = ReportPart.all.flatMap f.findingsIn := by
  unfold findings
  rw [if_neg (by simpa using hf)]
  simp [ReportPart.all, findingsIn]

theorem mem_branchFindings_iff {node : String} {b : Branch} : x ∈ f.branchFindings node b ↔
    (∃ expression target, b = .when expression target ∧ (Condition.read expression).isReadable = false ∧
      x = .unreadableCondition node expression) ∨ b.target ∉ f.ids ∧ x = .unknownGoto node b.target := by
  unfold branchFindings
  cases b <;> simp

theorem part?_of_mem_nodeFindings {n : Node} (h : x ∈ f.nodeFindings n) : x.part? = some .nodes := by
  unfold nodeFindings at h
  cases hk : n.kind with
  | question q =>
    simp only [hk, List.mem_ite_nil_right, List.mem_singleton] at h
    rw [h.2]
    rfl
  | webhook w =>
    simp only [hk, List.mem_ite_nil_right, List.mem_singleton] at h
    rw [h.2]
    rfl
  | action a =>
    simp only [hk, List.mem_ite_nil_right, List.mem_singleton] at h
    rw [h.2]
    rfl
  | condition branches =>
    simp only [hk, List.mem_append, List.mem_ite_nil_right, List.mem_singleton, List.mem_flatMap] at h
    rcases h with ⟨-, rfl⟩ | ⟨b, -, h⟩
    · rfl
    · rcases mem_branchFindings_iff.1 h with ⟨_, _, -, -, rfl⟩ | ⟨-, rfl⟩ <;> rfl
  | _ => rw [hk] at h; cases h

/-- A finding stands in no part but its own. -/
theorem part?_of_mem {part : ReportPart} (h : x ∈ f.findingsIn part) : x.part? = some part := by
  cases part with
  | ids =>
    rcases List.mem_append.1 h with h | h <;> obtain ⟨_, -, rfl⟩ := List.mem_map.1 h <;> rfl
  | start =>
    replace h : x ∈ f.startFindings := h
    unfold startFindings at h
    split at h <;> obtain ⟨_, -, rfl⟩ := List.mem_map.1 h <;> rfl
  | connections =>
    obtain ⟨c, -, h⟩ := List.mem_flatMap.1 h
    simp only [connectionFindings, List.mem_append, List.mem_ite_nil_left, List.mem_singleton] at h
    rcases h with ⟨-, rfl⟩ | ⟨-, rfl⟩ <;> rfl
  | fans =>
    obtain ⟨_, -, rfl⟩ := List.mem_map.1 h
    rfl
  | nodes =>
    obtain ⟨n, -, h⟩ := List.mem_flatMap.1 h
    exact part?_of_mem_nodeFindings h
  | reach =>
    obtain ⟨_, -, rfl⟩ := List.mem_map.1 h
    rfl
  | trigger =>
    replace h : x ∈ f.triggerFindings := h
    simp only [triggerFindings, List.mem_ite_nil_right, List.mem_singleton] at h
    rw [h.2]
    rfl

/-- So the report has a finding when its part has it. -/
theorem mem_findings_iff {part : ReportPart} (hx : x.part? = some part) :
    x ∈ f.findings ↔ f.nodes ≠ [] ∧ x ∈ f.findingsIn part := by
  by_cases hf : f.nodes = []
  · rw [findings_of_nil hf, List.mem_singleton]
    refine ⟨fun h => ?_, fun h => absurd hf h.1⟩
    rw [h] at hx
    cases hx
  · rw [findings_eq hf, and_iff_right hf, List.mem_flatMap]
    refine ⟨fun ⟨other, _, h⟩ => ?_, fun h => ⟨part, by cases part <;> decide, h⟩⟩
    rw [part?_of_mem h] at hx
    cases hx
    exact h

/-- What a report has of findings that stand in one part only, in the order in which it has them. -/
theorem filter_findings {part : ReportPart} {p : Finding → Bool} (hp : ∀ x, p x = true → x.part? = some part) :
    f.findings.filter p = if f.nodes = [] then [] else (f.findingsIn part).filter p := by
  split
  case isTrue hf =>
    rw [findings_of_nil hf, List.filter_eq_nil_iff]
    intro x hx hpx
    have hnone := hp x hpx
    rw [List.mem_singleton.1 hx] at hnone
    cases hnone
  case isFalse hf =>
    have hother (other : ReportPart) (hne : other ≠ part) : (f.findingsIn other).filter p = [] := by
      refine List.filter_eq_nil_iff.2 fun x hx hpx => hne ?_
      have hpart := hp x hpx
      rw [part?_of_mem hx] at hpart
      exact Option.some.inj hpart
    rw [findings_eq hf, List.filter_flatMap]
    cases part <;> simp [ReportPart.all, hother]

theorem mem_findings_iff_node (hx : x.part? = some .nodes) :
    x ∈ f.findings ↔ ∃ n ∈ f.nodes, x ∈ f.nodeFindings n := by
  rw [mem_findings_iff hx, and_iff_right_of_imp, findingsIn, List.mem_flatMap]
  intro h hf
  rw [findingsIn, hf] at h
  cases h

theorem mem_findings_of_branch {n : Node} {b : Branch} (hx : x.part? = some .nodes) (hn : n ∈ f.nodes)
    (hb : b ∈ n.branches) (h : x ∈ f.branchFindings n.id b) : x ∈ f.findings := by
  refine (mem_findings_iff_node hx).2 ⟨n, hn, ?_⟩
  unfold Node.branches at hb
  unfold nodeFindings
  cases hk : n.kind with
  | condition branches =>
    rw [hk] at hb
    exact List.mem_append_right _ (List.mem_flatMap.2 ⟨b, hb, h⟩)
  | _ => rw [hk] at hb; cases hb

theorem mem_errors_iff : x ∈ f.errors ↔ x ∈ f.findings ∧ x.severity = .error := by
  unfold errors
  rw [List.mem_filter, Finding.isError, beq_iff_eq]

/-! ## Edges of a flow without errors -/

/-- Every edge of a flow without errors ends at a node. -/
theorem target_mem_ids (hf : f.nodes ≠ []) (h : f.errors = []) {e : String × String} (he : e ∈ f.edges) :
    e.2 ∈ f.ids := by
  have hnone : ∀ y ∈ f.findings, y.severity ≠ .error := by
    intro y hy hs
    have := mem_errors_iff.2 ⟨hy, hs⟩
    rw [h] at this
    cases this
  refine Decidable.byContradiction fun hids => ?_
  rcases List.mem_append.1 he with he | he
  · obtain ⟨c, hc, rfl⟩ := List.mem_map.1 he
    refine hnone (.unknownTarget c.source c.target) ((mem_findings_iff rfl).2 ⟨hf, ?_⟩) rfl
    refine List.mem_flatMap.2 ⟨c, hc, List.mem_append_right _ ?_⟩
    rw [if_neg (by simpa using hids)]
    exact List.mem_singleton.2 rfl
  · obtain ⟨n, hn, he⟩ := List.mem_flatMap.1 he
    obtain ⟨b, hb, rfl⟩ := List.mem_map.1 he
    exact hnone (.unknownGoto n.id b.target)
      (mem_findings_of_branch rfl hn hb (mem_branchFindings_iff.2 (.inr ⟨hids, rfl⟩))) rfl

/-! ## Unreadable conditions -/

theorem unreadableCondition_mem {n : Node} {expression target : String} (hn : n ∈ f.nodes)
    (hb : Branch.when expression target ∈ n.branches) (hr : (Condition.read expression).isReadable = false) :
    .unreadableCondition n.id expression ∈ f.errors := by
  have hfinding : .unreadableCondition n.id expression ∈ f.branchFindings n.id (.when expression target) :=
    mem_branchFindings_iff.2 (.inl ⟨expression, target, rfl, hr, rfl⟩)
  exact mem_errors_iff.2 ⟨mem_findings_of_branch rfl hn hb hfinding, rfl⟩

/-- Only a condition that cannot be read is called unreadable. -/
theorem isReadable_of_mem {node expression : String} (h : .unreadableCondition node expression ∈ f.findings) :
    (Condition.read expression).isReadable = false := by
  obtain ⟨n, -, h⟩ := (mem_findings_iff_node rfl).1 h
  unfold nodeFindings at h
  cases hk : n.kind with
  | condition branches =>
    simp only [hk, List.mem_append, List.mem_flatMap] at h
    rcases h with h | ⟨b, -, h⟩
    · simp at h
    · rcases mem_branchFindings_iff.1 h with ⟨_, _, -, hr, heq⟩ | ⟨-, heq⟩
      · cases heq
        exact hr
      · cases heq
  | _ => simp [hk] at h

/-! ## Dropped answers and unreachable nodes -/

/-- The report calls the answer to a question dropped when the name of its variable is blank. -/
theorem droppedAnswer_mem_iff {id : String} : .droppedAnswer id ∈ f.findings ↔
    ∃ n ∈ f.nodes, n.id = id ∧ ∃ q, n.kind = .question q ∧ Text.isBlankText q.variableName = true := by
  rw [mem_findings_iff_node rfl]
  refine exists_congr fun n => and_congr_right fun _ => ?_
  unfold nodeFindings
  cases hk : n.kind with
  | question q =>
    simp only [List.mem_ite_nil_right, List.mem_singleton, Finding.droppedAnswer.injEq, NodeKind.question.injEq,
      exists_eq_left']
    exact ⟨fun ⟨hb, hid⟩ => ⟨hid.symm, hb⟩, fun ⟨hid, hb⟩ => ⟨hb, hid.symm⟩⟩
  | condition branches => simp [mem_branchFindings_iff]
  | _ => simp

/-- The report calls a node unreachable when it is no trigger and the search has not found its id. -/
theorem unreachable_mem_iff {id : String} : .unreachable id ∈ f.findings ↔
    ∃ n ∈ f.nodes, n.id = id ∧ n.isTrigger = false ∧ id ∉ f.reached := by
  have hpart : .unreachable id ∈ f.findingsIn .reach ↔
      ∃ n ∈ f.nodes, n.id = id ∧ n.isTrigger = false ∧ id ∉ f.reached := by
    simp only [findingsIn, reachFindings, List.mem_map, List.mem_filter, Bool.and_eq_true, Bool.not_eq_true',
      List.contains_eq_mem, decide_eq_false_iff_not, Finding.unreachable.injEq]
    refine exists_congr fun n => ⟨?_, ?_⟩
    · rintro ⟨⟨hn, hreached, htrigger⟩, rfl⟩
      exact ⟨hn, rfl, htrigger, hreached⟩
    · rintro ⟨hn, rfl, htrigger, hreached⟩
      exact ⟨⟨hn, hreached, htrigger⟩, rfl⟩
  rw [mem_findings_iff rfl, hpart, and_iff_right_of_imp]
  rintro ⟨n, hn, -⟩
  exact List.ne_nil_of_mem hn

end Flow

end Dialogue
