/-
What a run asks of the outside and what comes back: calls of web services, requests for generated
replies, and actions. A run hands out requests with all templates filled in and never shows its
session.

A service is a function from the number of earlier calls and the request to a reply, so a run is a
function of its inputs; a script gives its replies in order and repeats the last one. How long a
wait takes is up to the timer of the runtime, which is given like the services. The ledger holds
every request that was handed out and the time that has passed.
-/
import Dialogue.Value.Basic
import Dialogue.Json.Print

namespace Dialogue

/-! ## Requests and responses -/

/-- A call of a web service. -/
structure WebhookRequest where
  url : String
  method : String
  headers : Dictionary String
  body : Option Value
  timeoutMs : Nat
deriving BEq

/-- The response of a web service. -/
structure WebhookResponse where
  status : Nat
  body : Value
deriving BEq

/-- Whether a response reports success. -/
def WebhookResponse.isSuccess (r : WebhookResponse) : Bool :=
  decide (200 ≤ r.status) && decide (r.status < 300)

/-- The value under which a response is stored. -/
def WebhookResponse.value (r : WebhookResponse) : Value :=
  .ofFields [("ok", .bool r.isSuccess), ("status", .ofNat r.status), ("body", r.body)]

/-- A request for a generated reply. -/
structure AiRequest where
  system : String
  user : String
  model : Option String
  temperature : Option Binary
  maxTokens : Option Nat
deriving BEq

/-- A generated reply. -/
structure AiResponse where
  text : String
deriving BEq

/-- A call of an action; nothing comes back. -/
structure ActionRequest where
  name : String
  payload : Value
deriving BEq

/-! ## Failures -/

/-- Why a call failed. -/
inductive Failure
  | timeout (timeoutMs : Nat)
  | notConfigured (service : String)
  | transport (reason : String)
  | provider (reason : String)
deriving DecidableEq, Repr

namespace Failure

/-- The kind of a failure, by which conditions can tell failures apart. -/
def kind : Failure → String
  | .timeout _ => "timeout"
  | .notConfigured _ => "not_configured"
  | .transport _ => "transport"
  | .provider _ => "provider"

/-- The message of a failure. -/
def message : Failure → String
  | .timeout ms => "call timed out after " ++ toString ms ++ " ms"
  | .notConfigured service => service ++ " integration is not configured"
  | .transport reason => "transport error: " ++ reason
  | .provider reason => "provider error: " ++ reason

/-- The value that is stored in place of a response. -/
def marker (f : Failure) : Value :=
  .ofFields [("ok", .bool false), ("error", .text f.kind), ("message", .text f.message)]

end Failure

/-! ## Timers -/

/-- The timer of a runtime: how many milliseconds go by in a wait for so many. -/
structure Timer where
  elapsed : Nat → Nat
  elapsed_zero : elapsed 0 = 0

namespace Timer

/-- A timer that waits as long as it is asked to, and so lets a limit pass before a reply exactly when
the reply takes longer. -/
def Exact (timer : Timer) : Prop := ∀ ms, timer.elapsed ms = ms

/-- The exact timer. -/
def exact : Timer := ⟨id, rfl⟩

theorem exact_exact : exact.Exact := fun _ => rfl

/-- There is but one exact timer. -/
theorem Exact.eq {timer timer' : Timer} (h : timer.Exact) (h' : timer'.Exact) : timer' = timer := by
  obtain ⟨elapsed, _⟩ := timer
  obtain ⟨elapsed', _⟩ := timer'
  have helapsed : elapsed' = elapsed := funext fun ms => (h' ms).trans (h ms).symm
  subst helapsed
  rfl

end Timer

/-! ## Replies -/

/-- What a service answers, and how long it takes. -/
structure Reply (α : Type) where
  delayMs : Nat
  outcome : Except Failure α

/-- What a caller sees of a reply that it waits for at most `timeoutMs`, and how long it waits. The
wait for the reply and the wait for the limit begin together, and what ends first counts; a reply
that comes with the limit is in time. -/
def Reply.within {α : Type} (r : Reply α) (timer : Timer) (timeoutMs : Nat) :
    Except Failure α × Nat :=
  let replyMs := timer.elapsed r.delayMs
  let limitMs := timer.elapsed timeoutMs
  if limitMs < replyMs then (.error (.timeout timeoutMs), limitMs) else (r.outcome, replyMs)

/-- The services that a run may call, and the timer that it waits by: the first argument of a service
is the number of earlier calls. -/
structure Services where
  webhook : Nat → WebhookRequest → Reply WebhookResponse
  ai : Nat → AiRequest → Reply AiResponse
  timer : Timer

/-- The replies of a script: one per call, the last one again and again; without replies the
service is not configured. -/
def scripted {α : Type} (service : String) (replies : List (Reply α)) (call : Nat) : Reply α :=
  match replies[call]? with
  | some r => r
  | none => replies.getLast?.getD ⟨0, .error (.notConfigured service)⟩

/-- Services that answer from scripts, on an exact timer. -/
def Services.ofScripts (webhooks : List (Reply WebhookResponse)) (ais : List (Reply AiResponse)) :
    Services where
  webhook call _ := scripted "webhook" webhooks call
  ai call _ := scripted "ai" ais call
  timer := .exact

/-- No services at all. -/
def Services.none : Services := .ofScripts [] []

/-! ## The ledger -/

/-- The requests that were handed out, in order, and the milliseconds that have passed. -/
structure Ledger where
  webhooks : List WebhookRequest
  ais : List AiRequest
  actions : List ActionRequest
  clockMs : Nat
deriving BEq

/-- The ledger before anything happened. -/
def Ledger.empty : Ledger := ⟨[], [], [], 0⟩

/-- The ledger some time later. -/
def Ledger.wait (l : Ledger) (ms : Nat) : Ledger := { l with clockMs := l.clockMs + ms }

end Dialogue
