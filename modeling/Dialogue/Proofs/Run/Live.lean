/-
Live conversations: every message is a run of its own, and between two runs the session is kept as text. A
conversation that hands each session on as it is has the same turns, and leaves the same ledger, as the live one
about the messages that it uses: it ends with the first completed turn, and no later message counts.

What is needed for it is that a session loses nothing in its text. The variables of a session are well formed
whenever the flow's defaults and the bodies of the responses are, so the session's document describes it; that the
text of that document is read as the document again is assumed.
-/
import Dialogue.Json.Read
import Dialogue.Proofs.Document.Equality
import Dialogue.Proofs.Run.Resumption
import Dialogue.Proofs.Run.WellFormed
import Dialogue.Proofs.Shape.Run

namespace Dialogue

/-! ## Stored sessions -/

/-- A way of writing documents as text and of reading them. -/
structure TextForm where
  write : Document → String
  read : String → Option Document

/-- JSON text, without blanks. -/
def TextForm.json : TextForm := ⟨Json.compact, Json.document?⟩

namespace TextForm

/-- The text that is kept of a session. -/
def store (form : TextForm) (session : Session) : String := form.write session.toDocument

/-- The session that a text describes. -/
def session? (form : TextForm) (stored : String) : Option Session :=
  (form.read stored).bind fun d => Source.read? ⟨d, 0⟩ Session.ofDocument?

/-- The session with which a turn begins: none if nothing is stored, and no result if what is stored cannot be
read. -/
def load? (form : TextForm) : Option String → Option (Option Session)
  | none => some none
  | some stored => (form.session? stored).map some

/-- The text of a session's document is read as that document. -/
def Keeps (form : TextForm) (session : Session) : Prop :=
  form.read (form.store session) = some session.toDocument

instance (form : TextForm) (session : Session) : Decidable (form.Keeps session) :=
  inferInstanceAs (Decidable (_ = _))

theorem load?_store {form : TextForm} {session : Session} (hkeeps : form.Keeps session)
    (h : session.vars.WellFormed) : form.load? (some (form.store session)) = some (some session) := by
  have hread : Source.read? ⟨session.toDocument, 0⟩ Session.ofDocument? = some session := by
    unfold Source.read?
    rw [Session.ofDocument?_toDocument h]
    rfl
  have hsession : form.session? (form.store session) = some session := by
    unfold session?
    rw [hkeeps, Option.bind_some, hread]
  unfold load?
  simp only
  rw [hsession, Option.map_some]

end TextForm

/-! ## Live turns -/

namespace Engine

/-- The turns of a live conversation: a run for each message, the session stored in between. There is no result if
a stored session cannot be read. -/
def live? (engine : Engine) (form : TextForm) (flow : Flow) :
    Option String → List String → Ledger → Option (List Turn × Ledger)
  | _, [], ledger => some ([], ledger)
  | stored, inbound :: rest, ledger => do
    let session ← form.load? stored
    let run := engine.run flow session inbound ledger
    (engine.live? form flow (some (form.store run.1.session)) rest run.2).map fun later =>
      (⟨inbound, run.1⟩ :: later.1, later.2)

section

variable {engine : Engine} {flow : Flow} {session : Option Session} {inbound : String} {rest : List String}
  {ledger : Ledger} {form : TextForm} {stored : Option String}

theorem turnsFrom_of_completed (hc : (engine.run flow session inbound ledger).1.completed = true)
    (rest : List String) : engine.turnsFrom flow session (inbound :: rest) ledger =
      ([⟨inbound, (engine.run flow session inbound ledger).1⟩], (engine.run flow session inbound ledger).2) := by
  rw [turnsFrom]
  simp only [hc, if_true]

theorem turnsFrom_of_open (hc : (engine.run flow session inbound ledger).1.completed = false)
    (rest : List String) : engine.turnsFrom flow session (inbound :: rest) ledger =
      let run := engine.run flow session inbound ledger
      let later := engine.turnsFrom flow (some run.1.session) rest run.2
      (⟨inbound, run.1⟩ :: later.1, later.2) := by
  rw [turnsFrom]
  simp only [hc, Bool.false_eq_true, if_false]

/-- A live turn is a run on the session that is loaded, and the rest goes on from what it stores. -/
theorem live?_cons (hload : form.load? stored = some session) :
    engine.live? form flow stored (inbound :: rest) ledger =
      let run := engine.run flow session inbound ledger
      (engine.live? form flow (some (form.store run.1.session)) rest run.2).map fun later =>
        (⟨inbound, run.1⟩ :: later.1, later.2) := by
  rw [live?, hload]
  rfl

/-- On the messages that a conversation uses, the live turns are its turns. -/
theorem live?_turnsFrom (hdefaults : flow.defaults.WellFormed) (hservices : engine.services.WellFormed)
    {inputs : List String} (hload : form.load? stored = some session)
    (hvars : (session.getD .new).vars.WellFormed)
    (hform : ∀ t ∈ (engine.turnsFrom flow session inputs ledger).1, form.Keeps t.result.session) :
    engine.live? form flow stored (inputs.take (engine.turnsFrom flow session inputs ledger).1.length) ledger =
      some (engine.turnsFrom flow session inputs ledger) := by
  induction inputs generalizing session stored ledger with
  | nil => rfl
  | cons inbound rest ih =>
    have hwellFormed := run_wellFormed hdefaults hservices hvars inbound ledger
    cases hc : (engine.run flow session inbound ledger).1.completed with
    | true =>
      rw [turnsFrom_of_completed hc, List.length_singleton, List.take_succ_cons, List.take_zero, live?_cons hload]
      rfl
    | false =>
      rw [turnsFrom_of_open hc] at hform ⊢
      obtain ⟨hkeeps, hlater⟩ := List.forall_mem_cons.1 hform
      -- the stored session is loaded as it was, so the rest is about the same session
      have hnext := ih (TextForm.load?_store hkeeps hwellFormed) hwellFormed hlater
      rw [List.length_cons, List.take_succ_cons, live?_cons hload]
      simp only
      rw [hnext, Option.map_some]

/-- The live turns about more messages begin with those about fewer. -/
theorem live?_prefix {first last : List String} {turns all : List Turn} {ledger' ledger'' : Ledger}
    (hfirst : engine.live? form flow stored first ledger = some (turns, ledger'))
    (hall : engine.live? form flow stored (first ++ last) ledger = some (all, ledger'')) : turns <+: all := by
  induction first generalizing stored ledger turns all with
  | nil =>
    cases hfirst
    exact List.nil_prefix
  | cons inbound rest ih =>
    cases hload : form.load? stored with
    | none =>
      rw [live?, hload] at hfirst
      cases hfirst
    | some session =>
      rw [live?_cons hload] at hfirst
      rw [List.cons_append, live?_cons hload] at hall
      obtain ⟨⟨later, _⟩, hlater, heq⟩ := Option.map_eq_some_iff.1 hfirst
      obtain ⟨⟨more, _⟩, hmore, heq'⟩ := Option.map_eq_some_iff.1 hall
      cases heq
      cases heq'
      exact List.cons_prefix_cons.2 ⟨rfl, ih hlater hmore⟩

end

end Engine

/-! ## Where a conversation ends -/

/-- The last turn is completed. -/
def Turn.Closes (turns : List Turn) : Prop := ∃ t, turns.getLast? = some t ∧ t.result.completed = true

theorem Turn.closes_cons_iff {t : Turn} (ht : t.result.completed = false) (turns : List Turn) :
    Closes (t :: turns) ↔ Closes turns := by
  unfold Closes
  rw [List.getLast?_cons]
  cases turns.getLast? with
  | some u => rfl
  | none =>
    -- the open turn is the only one
    constructor
    · rintro ⟨u, hu, hc⟩
      cases hu
      exact absurd hc (ne_true_of_eq_false ht)
    · rintro ⟨u, hu, -⟩
      cases hu

/-- A conversation is completed when its last turn is. -/
theorem Talk.completed_iff (turns : List Turn) :
    (Talk.of turns).conversation.completed = true ↔ Turn.Closes turns := by
  cases hlast : turns.getLast? with
  | some t =>
    rw [Talk.of_eq_of_last hlast]
    refine ⟨fun h => ⟨t, hlast, h⟩, ?_⟩
    rintro ⟨u, hu, hc⟩
    rw [hlast] at hu
    cases hu
    exact hc
  | none =>
    rw [List.getLast?_eq_none_iff.1 hlast]
    refine ⟨nofun, ?_⟩
    rintro ⟨u, hu, -⟩
    cases hu

/-- A conversation whose last turn is completed looks at no message behind those that it used. -/
theorem Engine.turnsFrom_later {engine : Engine} {flow : Flow} {session : Option Session} {inputs : List String}
    {ledger : Ledger} (hcloses : Turn.Closes (engine.turnsFrom flow session inputs ledger).1)
    (later : List String) :
    engine.turnsFrom flow session
        (inputs.take (engine.turnsFrom flow session inputs ledger).1.length ++ later) ledger =
      engine.turnsFrom flow session inputs ledger := by
  induction inputs generalizing session ledger with
  | nil =>
    obtain ⟨t, ht, -⟩ := hcloses
    cases ht
  | cons inbound rest ih =>
    cases hc : (engine.run flow session inbound ledger).1.completed with
    | true =>
      rw [turnsFrom_of_completed hc, List.length_singleton, List.take_succ_cons, List.cons_append,
        turnsFrom_of_completed hc]
    | false =>
      rw [turnsFrom_of_open hc] at hcloses ⊢
      rw [List.length_cons, List.take_succ_cons, List.cons_append, turnsFrom_of_open hc]
      simp only
      rw [ih ((Turn.closes_cons_iff hc _).1 hcloses)]

namespace Exchange

variable {engine : Engine} {flow : Flow} {first : Option Session} {inputs : List String} {turns : List Turn}

/-- A conversation uses all messages, unless a turn is completed. -/
theorem ending (h : Exchange engine flow first inputs turns) :
    turns.length = inputs.length ∨ Turn.Closes turns := by
  induction h with
  | silent => exact .inl rfl
  | closed _ hc => exact .inr ⟨_, rfl, hc⟩
  | more _ hc _ ih =>
    rcases ih with hlength | hcloses
    · exact .inl (congrArg (· + 1) hlength)
    · exact .inr ((Turn.closes_cons_iff hc _).2 hcloses)

/-- No turn but the last one is completed. -/
theorem open_before_last (h : Exchange engine flow first inputs turns) :
    ∀ t ∈ turns.dropLast, t.result.completed = false := by
  induction h with
  | silent => exact fun t ht => absurd ht List.not_mem_nil
  | closed => exact fun t ht => absurd ht List.not_mem_nil
  | @more _ _ _ _ _ turns _ hc _ ih =>
    cases turns with
    | nil => exact fun t ht => absurd ht List.not_mem_nil
    | cons u later => exact List.forall_mem_cons.2 ⟨hc, ih⟩

end Exchange

/-! ## Conversations -/

/-- A question with a call in front of it and thanks behind. -/
def Flow.intake : Flow where
  id := "intake"
  slug := "intake"
  name := none
  nodes := [⟨"start", none, .trigger⟩, ⟨"rates", none, .webhook ⟨"/rates", "get", .empty, none, none, "rates"⟩⟩,
    ⟨"ask", none, .question ⟨"Your name?", "name", []⟩⟩, ⟨"thanks", none, .message "Thanks"⟩]
  connections := [⟨"start", "rates", none⟩, ⟨"rates", "ask", none⟩, ⟨"ask", "thanks", none⟩]
  trigger := .default
  defaults := .ofList [("nights", .number (.integer 2))]

/-- Rates of four and a half. -/
def Services.rates : Services :=
  .ofScripts [⟨0, .ok ⟨200, .list [.number (.double (.ofRatio .double false 9 2))]⟩⟩] []

theorem Services.rates_wellFormed : Services.rates.WellFormed := by
  refine ofScripts_wellFormed [] ?_
  intro r hr response ho
  rw [List.mem_singleton.1 hr] at ho
  cases ho
  refine .list ?_
  intro v hv
  rw [List.mem_singleton.1 hv]
  exact .double (by decide)

namespace Engine

/-- A conversation is the live one about the messages that it uses, for any flow whose defaults are well formed and
services whose responses are, as long as the text of every session is read as its document: it has the same turns
and leaves the same ledger, and the live one about all messages begins with it. No turn but the last is completed;
either all messages are used, or the last turn is completed and whatever follows the used messages makes no
difference. How it ends is how its last turn ends, if there is one. -/
theorem converse_eq_live {engine : Engine} {flow : Flow} {form : TextForm} {inputs : List String} {ledger : Ledger}
    (hdefaults : flow.defaults.WellFormed) (hservices : engine.services.WellFormed)
    (hform : ∀ t ∈ (engine.converse flow inputs ledger).1.turns, form.Keeps t.result.session) :
    let conversation := (engine.converse flow inputs ledger).1
    let turns := conversation.turns
    let used := inputs.take turns.length
    engine.live? form flow none used ledger = some (turns, (engine.converse flow inputs ledger).2) ∧
    (∀ all ledger', engine.live? form flow none inputs ledger = some (all, ledger') → turns <+: all) ∧
    (∀ t ∈ turns.dropLast, t.result.completed = false) ∧
    (used = inputs ∨ conversation.completed = true) ∧
    (conversation.completed = true →
      ∀ later, engine.converse flow (used ++ later) ledger = engine.converse flow inputs ledger) ∧
    match turns.getLast? with
    | some t => conversation.finalSession = t.result.session ∧
        conversation.termination? = some t.result.termination ∧ conversation.completed = t.result.completed
    | none => inputs = [] ∧ conversation.finalSession = .new ∧ conversation.termination? = none ∧
        conversation.completed = false := by
  rw [engine.converse_eq flow inputs ledger] at hform ⊢
  intro conversation turns used
  have hexchange : Exchange engine flow none inputs turns := engine.turnsFrom_exchange flow inputs none ledger
  have hlive : engine.live? form flow none used ledger =
      some (turns, (engine.turnsFrom flow none inputs ledger).2) :=
    live?_turnsFrom hdefaults hservices rfl Variables.wellFormed_empty hform
  have hcloses : conversation.completed = true ↔ Turn.Closes turns := Talk.completed_iff turns
  refine ⟨hlive, ?_, hexchange.open_before_last, ?_, ?_, ?_⟩
  · intro all ledger' hall
    rw [← List.take_append_drop turns.length inputs] at hall
    exact live?_prefix hlive hall
  · rcases hexchange.ending with hlength | hlast
    · exact .inl (List.take_of_length_le (Nat.le_of_eq hlength.symm))
    · exact .inr (hcloses.2 hlast)
  · intro hcompleted later
    have hsame := turnsFrom_later (hcloses.1 hcompleted) later
    rw [converse_eq, show engine.turnsFrom flow none (used ++ later) ledger = _ from hsame]
  · cases hlast : turns.getLast? with
    | some t =>
      rw [show conversation = _ from congrArg Talk.conversation (Talk.of_eq_of_last hlast)]
      exact ⟨rfl, rfl, rfl⟩
    | none =>
      have hinputs : inputs = [] := by
        rcases hexchange.ending with hlength | ⟨t, ht, -⟩
        · rw [List.getLast?_eq_none_iff.1 hlast] at hlength
          exact List.eq_nil_of_length_eq_zero hlength.symm
        · rw [hlast] at ht
          cases ht
      rw [show conversation = (Talk.of turns).conversation from rfl, List.getLast?_eq_none_iff.1 hlast]
      exact ⟨hinputs, rfl, rfl, rfl⟩

/-- Of three messages two are used, and their sessions are kept as JSON text. -/
theorem converse_eq_live_intake :
    let engine : Engine := ⟨.default, .rates⟩
    let conversation := engine.converse .intake ["hi", "Ada", "more"] .empty
    conversation.1.turns.length = 2 ∧
    (∀ t ∈ conversation.1.turns, TextForm.json.Keeps t.result.session) ∧
    engine.live? .json .intake none ["hi", "Ada"] .empty = some (conversation.1.turns, conversation.2) ∧
    conversation.1.completed = true ∧
    ∀ later, engine.converse .intake (["hi", "Ada"] ++ later) .empty = conversation := by
  intro engine conversation
  have hlength : conversation.1.turns.length = 2 := by decide +kernel
  have hcompleted : conversation.1.completed = true := by decide +kernel
  have hkeeps : ∀ t ∈ conversation.1.turns, TextForm.json.Keeps t.result.session := by decide +kernel
  have hdefaults : Flow.intake.defaults.WellFormed := by
    refine Variables.wellFormed_ofList fun p hp => ?_
    rw [List.mem_singleton.1 hp]
    exact .integer
  obtain ⟨hlive, -, -, -, hlater, -⟩ := converse_eq_live hdefaults Services.rates_wellFormed hkeeps
  rw [hlength] at hlive hlater
  exact ⟨hlength, hkeeps, hlive, hcompleted, hlater hcompleted⟩

end Engine

end Dialogue
