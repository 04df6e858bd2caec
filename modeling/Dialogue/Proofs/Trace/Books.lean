/-
The books of a trace. Steps are started and ended and errors noted in any order: a node may be started while a step of
it is open, and ended more often than it was started, or less. Whatever the order, the records are numbered and stand
in the order of the starts; the end of a step changes the latest open record of its node, or nothing; a record that is
closed stays as it is; and the open records of a node are its starts less the ends that closed one.

Each of these is a law of a single call, which the calls that follow keep.
-/
import Mathlib.Algebra.Ring.Nat
import Dialogue.Trace

namespace Dialogue

/-- What a trace is told: that a step starts, that one ends, or that there is an error. -/
inductive Trace.Call
  | start (node kind : String)
  | finish (node : String) (outcome : Outcome) (detail : Option String)
  | note (node message : String)
deriving DecidableEq, Repr

namespace Trace

/-! ## Calls -/

/-- The node of which a call starts a step. -/
def Call.started? : Call → Option String
  | .start node _ => some node
  | .finish .. => none
  | .note .. => none

/-- The nodes of which calls start a step, in order. -/
def started (calls : List Call) : List String := calls.filterMap Call.started?

/-- The trace after a call. -/
def apply (t : Trace) : Call → Trace
  | .start node kind => t.start node kind
  | .finish node outcome detail => t.finish node outcome detail
  | .note node message => t.note node message

/-- The trace after calls, one after the other. -/
def applyAll (t : Trace) (calls : List Call) : Trace := calls.foldl apply t

/-- The number of open records of a node. -/
def openCount (t : Trace) (node : String) : Nat := t.steps.countP (isOpen node)

/-- Whether a call closes a record of a node: it ends a step of the node with an outcome that is final, and finds an
open record. -/
def closes (t : Trace) (node : String) : Call → Bool
  | .finish n outcome _ => n == node && outcome != .running && t.steps.any (isOpen node)
  | _ => false

/-- How many of the calls from a trace on close a record of a node. -/
def closings (node : String) : Trace → List Call → Nat
  | _, [] => 0
  | t, call :: rest => (if t.closes node call then 1 else 0) + closings node (t.apply call) rest

/-! ## The end of a step -/

theorem isOpen_iff {node : String} {r : StepRecord} :
    isOpen node r = true ↔ r.node = node ∧ r.outcome = .running := by
  simp [isOpen]

theorem updateFirst_cases (p : StepRecord → Bool) (f : StepRecord → StepRecord) (records : List StepRecord) :
    (∀ r ∈ records, p r = false) ∧ updateFirst p f records = records ∨
      ∃ front r back, records = front ++ r :: back ∧ p r = true ∧ (∀ s ∈ front, p s = false) ∧
        updateFirst p f records = front ++ f r :: back := by
  induction records with
  | nil => exact .inl ⟨by simp, rfl⟩
  | cons r rest ih =>
    by_cases hr : p r = true
    · exact .inr ⟨[], r, rest, rfl, hr, by simp, if_pos hr⟩
    · rw [updateFirst, if_neg hr]
      rw [Bool.not_eq_true] at hr
      rcases ih with ⟨hrest, heq⟩ | ⟨front, s, back, rfl, hs, hfront, heq⟩
      · exact .inl ⟨List.forall_mem_cons.2 ⟨hr, hrest⟩, by rw [heq]⟩
      · exact .inr ⟨r :: front, s, back, rfl, hs, List.forall_mem_cons.2 ⟨hr, hfront⟩, by rw [heq, List.cons_append]⟩

/-- The end of a step changes nothing if the node has no open record, and else the latest one and no other. -/
theorem finish_cases (t : Trace) (node : String) (outcome : Outcome) (detail : Option String) :
    (∀ r ∈ t.steps, isOpen node r = false) ∧ t.finish node outcome detail = t ∨
      ∃ front r back, t.steps = front ++ r :: back ∧ isOpen node r = true ∧ (∀ s ∈ back, isOpen node s = false) ∧
        t.finish node outcome detail =
          { t with steps := front ++ { r with outcome := outcome, detail := detail } :: back } := by
  unfold finish
  -- the records are looked through from the last one on
  rcases updateFirst_cases (isOpen node) (fun r => { r with outcome := outcome, detail := detail }) t.steps.reverse with
    ⟨hnone, heq⟩ | ⟨back, r, front, hsteps, hr, hback, heq⟩
  · refine .inl ⟨fun r hr => hnone r (List.mem_reverse.2 hr), ?_⟩
    rw [heq, List.reverse_reverse]
  · refine .inr ⟨front.reverse, r, back.reverse, ?_, hr, fun s hs => hback s (List.mem_reverse.1 hs), ?_⟩
    · rw [← List.reverse_reverse t.steps, hsteps]
      simp
    · rw [heq]
      simp

/-- What an end leaves alone in every record, it leaves alone in the trace. -/
theorem map_finish {β : Type} (g : StepRecord → β)
    (hg : ∀ r outcome detail, g { r with outcome := outcome, detail := detail } = g r) (t : Trace) (node : String)
    (outcome : Outcome) (detail : Option String) :
    (t.finish node outcome detail).steps.map g = t.steps.map g := by
  rcases t.finish_cases node outcome detail with ⟨-, heq⟩ | ⟨front, r, back, hsteps, -, -, heq⟩
  · rw [heq]
  · rw [heq, hsteps, List.map_append, List.map_cons, hg, List.map_append, List.map_cons]

/-! ## One call -/

theorem path_apply (t : Trace) (call : Call) : (t.apply call).path = t.path ++ call.started?.toList := by
  cases call with
  | start node kind => simp [apply, path, Call.started?]
  | finish node outcome detail =>
    have hpath : (t.finish node outcome detail).path = t.path := map_finish (·.node) (fun _ _ _ => rfl) ..
    simp [apply, hpath, Call.started?]
  | note node message => simp [apply, path, Call.started?]

/-- The records are numbered from one on. -/
def Numbered (t : Trace) : Prop := t.steps.map (·.step) = List.range' 1 t.steps.length

theorem numbered_empty : empty.Numbered := rfl

theorem Numbered.apply {t : Trace} (h : t.Numbered) (call : Call) : (t.apply call).Numbered := by
  unfold Numbered at h ⊢
  cases call with
  | start node kind => simp [Trace.apply, h, List.range'_concat, Nat.add_comm]
  | finish node outcome detail =>
    have hsteps : (t.finish node outcome detail).steps.map (·.step) = t.steps.map (·.step) :=
      map_finish (·.step) (fun _ _ _ => rfl) ..
    have hlength : (t.finish node outcome detail).steps.length = t.steps.length := by
      simpa using congrArg List.length hsteps
    rw [Trace.apply, hsteps, hlength, h]
  | note node message => exact h

theorem closed_apply {t : Trace} {i : Nat} {r : StepRecord} (h : t.steps[i]? = some r) (hr : r.outcome ≠ .running)
    (call : Call) : (t.apply call).steps[i]? = some r := by
  cases call with
  | start node kind =>
    have hi := (List.getElem?_eq_some_iff.1 h).1
    rw [apply, start_steps, List.getElem?_append_left hi, h]
  | note node message => exact h
  | finish node outcome detail =>
    rcases t.finish_cases node outcome detail with ⟨-, heq⟩ | ⟨front, s, back, hsteps, hs, -, heq⟩
    · rw [apply, heq, h]
    · have hset : (t.apply (.finish node outcome detail)).steps =
          t.steps.set front.length { s with outcome := outcome, detail := detail } := by
        rw [apply, heq, hsteps]
        simp
      -- the record that changes is open, so it is not this one
      have hi : front.length ≠ i := by
        rintro rfl
        rw [hsteps] at h
        obtain rfl : s = r := by simpa using h
        exact hr (isOpen_iff.1 hs).2
      rw [hset, List.getElem?_set_ne hi, h]

theorem closes_finish_iff {t : Trace} {node n : String} {outcome : Outcome} {detail : Option String} :
    t.closes node (.finish n outcome detail) = true ↔
      n = node ∧ outcome ≠ .running ∧ ∃ r ∈ t.steps, isOpen node r = true := by
  simp [closes, and_assoc]

/-- The end of a step leaves one open record less of the node for which it closes one. -/
theorem openCount_finish (t : Trace) (n : String) (outcome : Outcome) (detail : Option String) (node : String) :
    (t.finish n outcome detail).openCount node + (if t.closes node (.finish n outcome detail) then 1 else 0) =
      t.openCount node := by
  rcases t.finish_cases n outcome detail with ⟨hnone, heq⟩ | ⟨front, r, back, hsteps, hr, -, heq⟩
  · have hcloses : ¬ t.closes node (.finish n outcome detail) = true := by
      intro h
      obtain ⟨rfl, -, r, hr, hopen⟩ := closes_finish_iff.1 h
      rw [hnone r hr] at hopen
      cases hopen
    rw [heq, if_neg hcloses, Nat.add_zero]
  · have hcount : ∀ s, (front ++ s :: back).countP (isOpen node) =
        (front ++ back).countP (isOpen node) + if isOpen node s then 1 else 0 := by
      intro s
      simp only [List.countP_append, List.countP_cons, Nat.add_assoc]
    unfold openCount
    rw [heq, hsteps, hcount, hcount, Nat.add_assoc]
    congr 1
    -- the record was open: it is so no more exactly if it is of the node and the outcome is final
    obtain ⟨rfl, hrunning⟩ := isOpen_iff.1 hr
    by_cases hn : r.node = node
    · subst hn
      have hfound : ∃ s ∈ t.steps, isOpen r.node s = true := ⟨r, by simp [hsteps], hr⟩
      by_cases ho : outcome = .running
      · simp [isOpen_iff, closes_finish_iff, hrunning, ho]
      · rw [if_neg (by simp [isOpen_iff, ho]), if_pos (closes_finish_iff.2 ⟨rfl, ho, hfound⟩), if_pos hr]
    · simp [isOpen_iff, closes_finish_iff, hn]

theorem openCount_apply (t : Trace) (call : Call) (node : String) :
    (t.apply call).openCount node + (if t.closes node call then 1 else 0) =
      t.openCount node + call.started?.toList.count node := by
  cases call with
  | start n kind =>
    simp [apply, openCount, closes, Call.started?, isOpen, List.countP_singleton, List.count_singleton]
  | finish n outcome detail => exact t.openCount_finish n outcome detail node
  | note n message => simp [apply, openCount, closes, Call.started?]

/-! ## All calls -/

theorem applyAll_cons (t : Trace) (call : Call) (rest : List Call) :
    t.applyAll (call :: rest) = (t.apply call).applyAll rest := rfl

theorem started_cons (call : Call) (rest : List Call) :
    started (call :: rest) = call.started?.toList ++ started rest := by
  unfold started
  cases h : call.started? <;> simp [h]

theorem path_applyAll (t : Trace) (calls : List Call) : (t.applyAll calls).path = t.path ++ started calls := by
  induction calls generalizing t with
  | nil => exact (List.append_nil _).symm
  | cons call rest ih => rw [applyAll_cons, ih, path_apply, started_cons, List.append_assoc]

theorem Numbered.applyAll {t : Trace} (h : t.Numbered) (calls : List Call) : (t.applyAll calls).Numbered := by
  induction calls generalizing t with
  | nil => exact h
  | cons call rest ih => exact ih (h.apply call)

theorem Numbered.step_eq {t : Trace} (h : t.Numbered) {i : Nat} {r : StepRecord} (hr : t.steps[i]? = some r) :
    r.step = i + 1 := by
  have hi : (t.steps.map (·.step))[i]? = some r.step := by rw [List.getElem?_map, hr, Option.map_some]
  rw [h, List.getElem?_eq_some_iff] at hi
  obtain ⟨_, hstep⟩ := hi
  rw [← hstep, List.getElem_range', Nat.one_mul, Nat.add_comm]

theorem closed_applyAll {t : Trace} {i : Nat} {r : StepRecord} (h : t.steps[i]? = some r)
    (hr : r.outcome ≠ .running) (calls : List Call) : (t.applyAll calls).steps[i]? = some r := by
  induction calls generalizing t with
  | nil => exact h
  | cons call rest ih => exact ih (closed_apply h hr call)

theorem openCount_applyAll (t : Trace) (calls : List Call) (node : String) :
    (t.applyAll calls).openCount node + closings node t calls = t.openCount node + (started calls).count node := by
  induction calls generalizing t with
  | nil => rfl
  | cons call rest ih =>
    have hcall := t.openCount_apply call node
    have hrest := ih (t.apply call)
    rw [applyAll_cons, closings, started_cons, List.count_append]
    omega

/-- Every record is counted under one outcome. -/
theorem sum_counts (t : Trace) : (Outcome.all.map t.count).sum = t.size := by
  unfold Trace.count Trace.size
  induction t.steps with
  | nil => rfl
  | cons r rest ih =>
    simp only [Outcome.all, List.map_cons, List.map_nil, List.sum_cons, List.sum_nil, List.countP_cons,
      List.length_cons] at ih ⊢
    cases r.outcome <;> simp <;> omega

/-- Whatever calls a new trace gets, its records are numbered in order and are at the nodes of the starts, in order;
the end of a step changes the latest open record of its node and no other, or nothing if there is none; a record that is
closed stays as it is, whatever calls follow; the open records of a node and the ends that closed one are as many as its
starts; and every record counts under one outcome. -/
theorem books_of_calls (calls : List Call) :
    let t := empty.applyAll calls
    (∀ (i : Nat) r, t.steps[i]? = some r → r.step = i + 1) ∧ t.path = started calls ∧
    (∀ node outcome detail,
      (∀ r ∈ t.steps, isOpen node r = false) ∧ t.finish node outcome detail = t ∨
        ∃ front r back, t.steps = front ++ r :: back ∧ isOpen node r = true ∧ (∀ s ∈ back, isOpen node s = false) ∧
          t.finish node outcome detail =
            { t with steps := front ++ { r with outcome := outcome, detail := detail } :: back }) ∧
    (∀ (more : List Call) (i : Nat) r, t.steps[i]? = some r → r.outcome ≠ .running →
      (t.applyAll more).steps[i]? = some r) ∧
    (∀ node, t.openCount node + closings node empty calls = (started calls).count node) ∧
    (Outcome.all.map t.count).sum = t.size := by
  intro t
  have hnumbered : t.Numbered := numbered_empty.applyAll calls
  refine ⟨fun i r hr => hnumbered.step_eq hr, path_applyAll empty calls, t.finish_cases, ?_, ?_, t.sum_counts⟩
  · exact fun more i r hr hclosed => closed_applyAll hr hclosed more
  · intro node
    have hcount := openCount_applyAll empty calls node
    rwa [show empty.openCount node = 0 from rfl, Nat.zero_add] at hcount

/-- Of two open records of a node the later one is closed first, and an end that is left over changes nothing. -/
example :
    let t := empty.applyAll [.start "ask" "question", .start "crm" "webhook", .start "ask" "question",
      .finish "ask" .halt none, .finish "ask" .failed (some "late"), .finish "ask" .continue none]
    t.steps.map (·.outcome) = [.failed, .running, .halt] := by
  decide

end Trace

end Dialogue
