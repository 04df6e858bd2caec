/-
The search for the ids that can be reached is exact: it finds those to which a path of edges leads from the
start node, and no others. At every moment what it has found is at the end of a path, and an edge that begins in
an id found leads to another one unless that id is still queued; so with an empty queue nothing is missing. And
the queue does get empty: a step takes one id off it, and for each id that it adds there is one edge less that
leads to an id not found.
-/
import Dialogue.Flow.Reach
import Mathlib.Logic.Relation

namespace Dialogue

/-- A path of edges, possibly of none, from one id to another. -/
def Joined (edges : List (String × String)) : String → String → Prop :=
  Relation.ReflTransGen fun a b => (a, b) ∈ edges

namespace Search

variable {edges : List (String × String)} {origin id current : String} {rest : List String} {s : Search}

/-! ## Steps -/

theorem mem_targets_iff : id ∈ targets edges current ↔ (current, id) ∈ edges := by
  unfold targets
  simp

theorem mem_reached_visit_iff {target : String} : id ∈ (s.visit target).reached ↔ id ∈ s.reached ∨ id = target := by
  unfold visit
  split
  · rename_i h
    exact ⟨.inl, fun hid => hid.elim (fun hid => hid) fun hid => hid ▸ h⟩
  · exact List.mem_cons.trans or_comm

theorem mem_queue_visit_iff {target : String} :
    id ∈ (s.visit target).queue ↔ id ∈ s.queue ∨ id = target ∧ id ∉ s.reached := by
  unfold visit
  split
  · rename_i h
    exact ⟨.inl, fun hid => hid.elim (fun hid => hid) fun hid => absurd (hid.1 ▸ h) hid.2⟩
  · rename_i h
    rw [List.mem_append, List.mem_singleton]
    exact or_congr_right ⟨fun hid => ⟨hid, hid ▸ h⟩, And.left⟩

theorem mem_reached_visits_iff {ids : List String} : id ∈ (ids.foldl visit s).reached ↔ id ∈ s.reached ∨ id ∈ ids := by
  induction ids generalizing s with
  | nil => simp
  | cons target ids ih => rw [List.foldl_cons, ih, mem_reached_visit_iff, List.mem_cons, or_assoc]

theorem mem_queue_visits_iff {ids : List String} :
    id ∈ (ids.foldl visit s).queue ↔ id ∈ s.queue ∨ id ∈ ids ∧ id ∉ s.reached := by
  induction ids generalizing s with
  | nil => simp
  | cons target ids ih =>
    rw [List.foldl_cons, ih, mem_queue_visit_iff, mem_reached_visit_iff, List.mem_cons]
    by_cases hid : id = target <;> simp [hid]

theorem step_of_idle (h : s.queue = []) : s.step edges = s := by
  unfold step
  rw [h]

theorem step_of_queue (h : s.queue = current :: rest) :
    s.step edges = (targets edges current).foldl visit ⟨s.reached, rest⟩ := by
  unfold step
  rw [h]

/-- A step finds the ends of the edges of the first id in the queue. -/
theorem mem_reached_step_iff (h : s.queue = current :: rest) :
    id ∈ (s.step edges).reached ↔ id ∈ s.reached ∨ (current, id) ∈ edges := by
  rw [step_of_queue h, mem_reached_visits_iff, mem_targets_iff]

/-- A step queues what it finds for the first time. -/
theorem mem_queue_step_iff (h : s.queue = current :: rest) :
    id ∈ (s.step edges).queue ↔ id ∈ rest ∨ (current, id) ∈ edges ∧ id ∉ s.reached := by
  rw [step_of_queue h, mem_queue_visits_iff, mem_targets_iff]

/-! ## What is found -/

/-- A search that came from an id: what is found is at the end of a path, and all edges of what is found are followed
but for the ids in the queue. -/
structure From (edges : List (String × String)) (origin : String) (s : Search) : Prop where
  first : origin ∈ s.reached
  queued : ∀ id ∈ s.queue, id ∈ s.reached
  joined : ∀ id ∈ s.reached, Joined edges origin id
  followed : ∀ a b, (a, b) ∈ edges → a ∈ s.reached → a ∈ s.queue ∨ b ∈ s.reached

theorem from_start (edges : List (String × String)) (origin : String) : From edges origin (.start origin) where
  first := List.mem_singleton.2 rfl
  queued _ h := h
  joined _ h := List.mem_singleton.1 h ▸ .refl
  followed _ _ _ h := .inl h

theorem From.step (h : From edges origin s) : From edges origin (s.step edges) := by
  cases hqueue : s.queue with
  | nil => exact (step_of_idle hqueue).symm ▸ h
  | cons current rest =>
    have hcurrent : current ∈ s.reached := h.queued current (hqueue ▸ List.mem_cons_self)
    refine ⟨(mem_reached_step_iff hqueue).2 (.inl h.first), fun id hid => ?_, fun id hid => ?_, fun a b he ha => ?_⟩
    · rcases (mem_queue_step_iff hqueue).1 hid with hid | ⟨he, -⟩
      · exact (mem_reached_step_iff hqueue).2 (.inl (h.queued id (hqueue ▸ List.mem_cons_of_mem _ hid)))
      · exact (mem_reached_step_iff hqueue).2 (.inr he)
    · rcases (mem_reached_step_iff hqueue).1 hid with hid | he
      · exact h.joined id hid
      · exact (h.joined current hcurrent).tail he
    · by_cases hfound : a ∈ s.reached
      · rw [mem_queue_step_iff hqueue, mem_reached_step_iff hqueue]
        rcases h.followed a b he hfound with hqueued | hb
        · -- the edges of the first id in the queue are those that the step follows
          rcases List.mem_cons.1 (hqueue ▸ hqueued) with rfl | hrest
          · exact .inr (.inr he)
          · exact .inl (.inl hrest)
        · exact .inr (.inl hb)
      · have hnew := ((mem_reached_step_iff hqueue).1 ha).resolve_left hfound
        exact .inl ((mem_queue_step_iff hqueue).2 (.inr ⟨hnew, hfound⟩))

theorem From.run (h : From edges origin s) (steps : Nat) : From edges origin (s.run edges steps) := by
  induction steps generalizing s with
  | zero => exact h
  | succ steps ih => exact ih h.step

/-- A search with nothing in the queue has found the ends of all paths. -/
theorem From.mem_reached_iff (h : From edges origin s) (hqueue : s.queue = []) :
    id ∈ s.reached ↔ Joined edges origin id := by
  refine ⟨h.joined id, fun hpath => ?_⟩
  induction hpath with
  | refl => exact h.first
  | @tail a b _ he ih =>
    refine (h.followed a b he ih).resolve_left fun ha => ?_
    rw [hqueue] at ha
    cases ha

/-! ## Where the search ends -/

/-- A bound of the steps that a search still makes: the ids in the queue, and the edges that lead to an id not found. -/
def work (edges : List (String × String)) (s : Search) : Nat :=
  s.queue.length + (edges.filter fun e => e.2 ∉ s.reached).length

theorem work_start_le (edges : List (String × String)) (id : String) : (start id).work edges ≤ edges.length + 1 := by
  have hedges : (edges.filter fun e => e.2 ∉ (start id).reached).length ≤ edges.length := List.length_filter_le ..
  unfold work
  show 1 + _ ≤ _
  omega

theorem work_visit_le {e : String × String} (he : e ∈ edges) : (s.visit e.2).work edges ≤ s.work edges := by
  unfold visit
  split
  · exact Nat.le_refl _
  · rename_i hnew
    -- the edge leads to an id found now
    have hless : (edges.filter fun x => x.2 ∉ e.2 :: s.reached) =
        (edges.filter fun x => x.2 ∉ s.reached).filter fun x => x.2 ≠ e.2 := by
      simp [List.filter_filter]
    have hlength : (edges.filter fun x => x.2 ∉ e.2 :: s.reached).length <
        (edges.filter fun x => x.2 ∉ s.reached).length := by
      rw [hless, List.length_filter_lt_length_iff_exists]
      exact ⟨e, List.mem_filter.2 ⟨he, decide_eq_true hnew⟩, by simp⟩
    unfold work
    simp only [List.length_append, List.length_singleton]
    omega

theorem work_visits_le {ids : List String} (h : ∀ id ∈ ids, ∃ e ∈ edges, e.2 = id) :
    (ids.foldl visit s).work edges ≤ s.work edges := by
  induction ids generalizing s with
  | nil => exact Nat.le_refl _
  | cons id ids ih =>
    obtain ⟨⟨e, he, rfl⟩, hids⟩ := List.forall_mem_cons.1 h
    exact Nat.le_trans (ih hids) (work_visit_le he)

theorem work_step_lt (h : s.queue = current :: rest) : (s.step edges).work edges < s.work edges := by
  have htargets : ∀ id ∈ targets edges current, ∃ e ∈ edges, e.2 = id :=
    fun id hid => ⟨_, mem_targets_iff.1 hid, rfl⟩
  have hvisits : ((targets edges current).foldl visit ⟨s.reached, rest⟩).work edges ≤ work edges ⟨s.reached, rest⟩ :=
    work_visits_le htargets
  have hwork : s.work edges = work edges ⟨s.reached, rest⟩ + 1 := by
    unfold work
    rw [h]
    exact Nat.add_right_comm ..
  rw [step_of_queue h, hwork]
  omega

theorem run_of_idle (h : s.queue = []) (steps : Nat) : s.run edges steps = s := by
  induction steps with
  | zero => rfl
  | succ steps ih => rw [run, step_of_idle h, ih]

/-- After as many steps as there is work the queue is empty. -/
theorem queue_run_eq_nil {steps : Nat} (h : s.work edges ≤ steps) : (s.run edges steps).queue = [] := by
  induction steps generalizing s with
  | zero =>
    unfold work at h
    show s.queue = []
    exact List.length_eq_zero_iff.1 (by omega)
  | succ steps ih =>
    cases hqueue : s.queue with
    | nil => rw [run_of_idle hqueue, hqueue]
    | cons current rest =>
      have hless : (s.step edges).work edges < s.work edges := work_step_lt hqueue
      exact ih (by omega)

theorem run_add (steps more : Nat) : s.run edges (steps + more) = (s.run edges steps).run edges more := by
  induction steps generalizing s with
  | zero => rw [Nat.zero_add, run]
  | succ steps ih => rw [Nat.succ_add, run, ih, run]

/-- From one step more than there are edges on, it makes no difference how many steps there are: the search has come
to its end. -/
theorem run_start_eq {steps : Nat} (h : edges.length < steps) (id : String) :
    (start id).run edges steps = (start id).run edges (edges.length + 1) := by
  obtain ⟨more, rfl⟩ : ∃ more, steps = edges.length + 1 + more := ⟨steps - (edges.length + 1), by omega⟩
  rw [run_add, run_of_idle (queue_run_eq_nil (work_start_le edges id))]

end Search

/-! ## The ids of a flow -/

namespace Flow

variable {f : Flow}

/-- An id is found when a path leads to it from the start node. -/
theorem mem_reached_iff {id : String} :
    id ∈ f.reached ↔ ∃ start, f.start? = some start ∧ Joined f.edges start.id id := by
  unfold reached
  cases f.start? with
  | none => simp
  | some start =>
    have hsearch := (Search.from_start f.edges start.id).run (f.edges.length + 1)
    simp [hsearch.mem_reached_iff (Search.queue_run_eq_nil (Search.work_start_le ..))]

theorem start_mem_reached {start : Node} (h : f.start? = some start) : start.id ∈ f.reached :=
  mem_reached_iff.2 ⟨start, h, .refl⟩

/-- What an edge leads to is found when its source is. -/
theorem target_mem_reached {e : String × String} (he : e ∈ f.edges) (h : e.1 ∈ f.reached) : e.2 ∈ f.reached := by
  obtain ⟨start, hstart, hpath⟩ := mem_reached_iff.1 h
  exact mem_reached_iff.2 ⟨start, hstart, hpath.tail he⟩

end Flow

end Dialogue
