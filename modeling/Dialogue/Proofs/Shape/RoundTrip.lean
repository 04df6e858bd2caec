/-
Reading undoes writing, over the whole format: flows with nodes of every kind, sessions, outputs, terminations,
requests and responses, and settings. What is written as a document, and whose document is written as text, is
read again as the same value, whatever the budget of references.

The text itself is not looked at here. Of its digits it is assumed that those of a single lead back to it
(`Document.KeepsSingles`); of the values, that they hold what their types hold: numbers in range and finite,
objects in order, and no body that is null, for null is how a missing body reads.
-/
import Dialogue.Json.Read
import Dialogue.Proofs.Document.Equality
import Dialogue.Proofs.Shape.Run

namespace Dialogue

/-! ## Digits -/

/-- The number that the digits of a single are read as. -/
def Json.digitsOf? (x : Binary) : Option Number :=
  match document? (number (.single x)) with
  | some (.leaf l) => l.value.number?
  | _ => none

/-- The numbers that the digits of singles write, where they lead back to the single. -/
def Json.digits (x : Binary) : Number :=
  match digitsOf? x with
  | some n => if n.toSingle = x then n else .single x
  | none => .single x

theorem Json.keepsSingles_digits : Document.KeepsSingles Json.digits := by
  intro x _
  unfold digits
  split
  · split
    · assumption
    · rfl
  · rfl

/-! ## A flow of every kind of node -/

/-- Seven tenths in single precision. -/
def Binary.tepid : Binary := .finite false 11744051 (-24)

/-- What is said to come back is what the text is read as: the digits of a single are read as a double that is not
the single's own value. -/
example :
    let d := AiRequest.toDocument ⟨"Be brief.", "Hi", none, some .tepid, some 64⟩
    Json.document? (Json.compact d) = some (Document.reread Json.digits d) ∧
      Json.digits .tepid = .double (.finite false 6305039478318694 (-53)) := by
  decide +kernel

/-- A guest with a rating. -/
def Value.guest : Value :=
  .object [("name", .text "Ada"), ("rating", .number (.double (.ofRatio .double false 9 2))),
    ("stays", .list [.number (.integer (-3)), .null, .bool true])]

theorem Value.guest_wellFormed : Value.guest.WellFormed := by
  refine .object (by unfold Entries.Ordered; decide) ?_
  simp only [List.forall_mem_cons]
  refine ⟨.text, .double (by decide), .list ?_, fun _ h => absurd h List.not_mem_nil⟩
  simp only [List.forall_mem_cons]
  exact ⟨.integer, .null, .bool, fun _ h => absurd h List.not_mem_nil⟩

/-- A booking, with a node of every kind. -/
def Flow.booking : Flow where
  id := "booking"
  slug := "rooms"
  name := some "Booking"
  nodes := [⟨"start", none, .trigger⟩, ⟨"hello", some "Greeting", .message "Hi"⟩,
    ⟨"size", none, .question ⟨"For how many?", "size", [⟨"One", "1"⟩, ⟨"Two", ""⟩]⟩⟩,
    ⟨"check", none, .condition [.when "size == 1" "rates", .otherwise "call"]⟩,
    ⟨"note", none, .action ⟨"note", .guest⟩⟩,
    ⟨"rates", none, .webhook ⟨"/rates", "POST", .ofList [("accept", "json")], some .guest, some 500, "rates"⟩⟩,
    ⟨"advise", none, .aiResponse ⟨"Be brief.", "Which room?", some "small", some .tepid, some 64, "advice"⟩⟩,
    ⟨"wait", none, .delay ⟨.ofInt .double 2, true⟩⟩, ⟨"call", none, .transfer "We call back."⟩,
    ⟨"done", none, .finish⟩]
  connections := [⟨"start", "hello", none⟩, ⟨"hello", "size", some "next"⟩]
  trigger := ⟨.keyword, ["room", "bed"]⟩
  defaults := .ofList [("guest", .guest), ("nights", .number (.integer 2))]

theorem Variables.wellFormed_guest :
    WellFormed (.ofList [("guest", .guest), ("nights", .number (.integer 2))]) := by
  refine wellFormed_ofList ?_
  simp only [List.forall_mem_cons]
  exact ⟨Value.guest_wellFormed, .integer, fun _ h => absurd h List.not_mem_nil⟩

theorem Binary.isSingle_tepid : ∀ x ∈ some Binary.tepid, x.IsSingle := by
  rintro x ⟨⟩
  exact ⟨rfl, by decide +kernel⟩

/-- A guest can be the body of a call. -/
theorem Value.guest_body : ∀ v ∈ some Value.guest, v.WellFormed ∧ v ≠ .null := by
  rintro v ⟨⟩
  exact ⟨guest_wellFormed, nofun⟩

theorem Flow.booking_writable : Flow.booking.Writable where
  nodes := by
    unfold booking
    simp only [List.forall_mem_cons]
    exact ⟨trivial, trivial, trivial, trivial, Value.guest_wellFormed, ⟨Value.guest_body, by simp [maxInteger]⟩,
      ⟨Binary.isSingle_tepid, by simp [maxTokenLimit]⟩, rfl, trivial, trivial, fun _ h => absurd h List.not_mem_nil⟩
  defaults := Variables.wellFormed_guest

/-! ## Reading back -/

namespace Document

/-- What a reader gives of a document that was written as text, within a budget of references. -/
def readBack {α : Type} (digits : Binary → Number) (budget : Nat) (read : Document → Read α) (d : Document) :
    Option α :=
  Source.read? ⟨reread digits d, budget⟩ read

theorem readBack_of_pure {α : Type} {digits : Binary → Number} {read : Document → Read α} {d : Document} {a : α}
    (h : read (reread digits d) = pure a) (budget : Nat) : readBack digits budget read d = some a := by
  unfold readBack Source.read?
  rw [h]
  rfl

/-- Reading undoes writing: as long as the digits of singles lead back to them, every value of the format whose
numbers are finite and in range is read again from its document as it was. -/
theorem readBack_toDocument {digits : Binary → Number} (hd : KeepsSingles digits) (budget : Nat) :
    (∀ f : Flow, f.Writable → readBack digits budget Flow.ofDocument? f.toDocument = some f) ∧
    (∀ s : Session, s.vars.WellFormed → readBack digits budget Session.ofDocument? s.toDocument = some s) ∧
    (∀ o : Output, o.Writable → readBack digits budget Output.ofDocument? o.toDocument = some o) ∧
    (∀ t : Termination, t.Writable → readBack digits budget Termination.ofDocument? t.toDocument = some t) ∧
    (∀ r : WebhookRequest, r.Writable →
      readBack digits budget WebhookRequest.ofDocument? r.toDocument = some r) ∧
    (∀ r : WebhookResponse, r.Writable →
      readBack digits budget WebhookResponse.ofDocument? r.toDocument = some r) ∧
    (∀ r : AiRequest, r.Writable → readBack digits budget AiRequest.ofDocument? r.toDocument = some r) ∧
    (∀ r : AiResponse, readBack digits budget AiResponse.ofDocument? r.toDocument = some r) ∧
    (∀ r : ActionRequest, r.payload.WellFormed →
      readBack digits budget ActionRequest.ofDocument? r.toDocument = some r) ∧
    (∀ c : Config, c.Writable → readBack digits budget Config.ofDocument? c.toDocument = some c) ∧
    (∀ s : Settings, s.engine.Writable →
      readBack digits budget Settings.ofDocument? s.toDocument = some s) := by
  have hsession {s : Session} (h : s.vars.WellFormed) :
      Session.ofDocument? (reread digits s.toDocument) = pure s := by
    rw [Session.reread_toDocument h]
    exact Session.ofDocument?_toDocument h
  refine ⟨fun f h => ?flow, fun s h => ?session, fun o h => ?output, fun t h => ?termination, fun r h => ?call,
    fun r h => ?response, fun r h => ?prompt, fun r => ?reply, fun r h => ?action, fun c h => ?engine,
    fun s h => ?settings⟩
  case flow => exact readBack_of_pure (Flow.ofDocument?_reread hd h) budget
  case session => exact readBack_of_pure (hsession h) budget
  case output => exact readBack_of_pure (Output.ofDocument?_reread h) budget
  case termination => exact readBack_of_pure (Termination.ofDocument?_reread h) budget
  case call => exact readBack_of_pure (WebhookRequest.ofDocument?_reread h) budget
  case response => exact readBack_of_pure (WebhookResponse.ofDocument?_reread h) budget
  case prompt => exact readBack_of_pure (AiRequest.ofDocument?_reread hd h) budget
  case reply => exact readBack_of_pure r.ofDocument?_reread budget
  case action => exact readBack_of_pure (ActionRequest.ofDocument?_reread h) budget
  case engine => exact readBack_of_pure (Config.ofDocument?_reread h) budget
  case settings => exact readBack_of_pure (Settings.ofDocument?_reread h) budget

/-- A booking comes back, and so does what runs of it take and give. -/
theorem readBack_toDocument_booking :
    let session : Session := ⟨some "size", Flow.booking.defaults, true⟩
    let typing : Output := .typing "wait" (.ofInt .double 2)
    let call : WebhookRequest := ⟨"/rates", "POST", .ofList [("accept", "json")], some .guest, 500⟩
    let response : WebhookResponse := ⟨200, .guest⟩
    let prompt : AiRequest := ⟨"Be brief.", "Which room?", some "small", some .tepid, some 64⟩
    KeepsSingles Json.digits ∧ Flow.booking.Writable ∧
    readBack Json.digits 0 Flow.ofDocument? Flow.booking.toDocument = some .booking ∧
    readBack Json.digits 0 Session.ofDocument? session.toDocument = some session ∧
    readBack Json.digits 0 Output.ofDocument? typing.toDocument = some typing ∧
    readBack Json.digits 0 Termination.ofDocument? (Termination.budgetExceeded 20).toDocument =
      some (.budgetExceeded 20) ∧
    readBack Json.digits 0 WebhookRequest.ofDocument? call.toDocument = some call ∧
    readBack Json.digits 0 WebhookResponse.ofDocument? response.toDocument = some response ∧
    readBack Json.digits 0 AiRequest.ofDocument? prompt.toDocument = some prompt ∧
    readBack Json.digits 0 AiResponse.ofDocument? (AiResponse.toDocument ⟨"Room 2"⟩) = some ⟨"Room 2"⟩ ∧
    readBack Json.digits 0 ActionRequest.ofDocument? (ActionRequest.toDocument ⟨"note", .guest⟩) =
      some ⟨"note", .guest⟩ ∧
    readBack Json.digits 0 Config.ofDocument? Config.default.toDocument = some .default ∧
    readBack Json.digits 0 Settings.ofDocument? Settings.default.toDocument = some .default := by
  intro session typing call response prompt
  have hbudget : (Termination.budgetExceeded 20).Writable := by
    show 20 ≤ maxInteger
    decide
  have hcall : call.Writable := ⟨Value.guest_body, by decide⟩
  have hresponse : response.Writable := ⟨by decide, Value.guest_wellFormed⟩
  have hprompt : prompt.Writable := by
    refine ⟨Binary.isSingle_tepid, ?_⟩
    rintro n ⟨⟩
    decide
  have hconfig : Config.default.Writable := ⟨by decide, by decide, by decide, rfl⟩
  obtain ⟨flow, session', output, termination, webhook, reply, ai, generated, action, engine, settings⟩ :=
    readBack_toDocument Json.keepsSingles_digits 0
  exact ⟨Json.keepsSingles_digits, Flow.booking_writable, flow _ Flow.booking_writable,
    session' session Variables.wellFormed_guest, output typing rfl, termination _ hbudget, webhook call hcall,
    reply response hresponse, ai prompt hprompt, generated _, action _ Value.guest_wellFormed, engine _ hconfig,
    settings _ hconfig⟩

end Document

end Dialogue
