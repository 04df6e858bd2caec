/-
Executing one node. A step reads the variables as they stand when it begins and reports what it
puts out, what it leaves in the variables and the ledger, and where the chain goes next.

A call that fails does not stop the chain: it leaves a marker in the node's variable and a notice
in the outputs, and the step counts as failed.
-/
import Dialogue.Condition
import Dialogue.Flow.Basic
import Dialogue.Number.Shortest
import Dialogue.Run.Config
import Dialogue.Run.Output
import Dialogue.Run.Service

namespace Dialogue

/-- Where the chain goes after a step: along the node's first connection, to a given node, nowhere
until an answer comes, or nowhere for good. -/
inductive Control
  | follow
  | jump (target : String)
  | halt
  | terminate (reason : Termination)
deriving DecidableEq, Repr

/-- What a step did. -/
structure StepReport where
  control : Control
  detail : Option String
  failure : Option Failure
  outputs : List Output
  vars : Variables
  ledger : Ledger

namespace StepReport

/-- The outcome of a step. -/
def outcome (r : StepReport) : Outcome :=
  match r.failure, r.control with
  | some _, _ => .failed
  | none, .follow => .continue
  | none, .jump _ => .jump
  | none, .halt => .halt
  | none, .terminate _ => .terminate

/-- The remark that a step leaves in its record: its detail, or else why it failed. -/
def remark (r : StepReport) : Option String := r.detail.or (r.failure.map Failure.message)

end StepReport

/-! ## Pauses -/

namespace Delay

/-- The seconds that a pause lasts: not above the limit, and none unless both its seconds and the
limit are above zero. -/
def effective (d : Delay) (limit : Binary) : Binary :=
  let zero := Binary.zero .double
  if d.seconds.isFinite && zero.lt d.seconds && zero.lt limit then d.seconds.least limit else zero

/-- The milliseconds that a pause of some seconds waits for: the seconds are rounded to nanoseconds,
and those up to milliseconds. A pause of `2 ^ 64` seconds or more is out of range and not waited. -/
def waitMs (seconds : Binary) : Nat :=
  match seconds with
  | .finite false m e =>
    let (n, d) := Binary.scaleTwo (m * 1000000000) 1 e
    let ns := Binary.nearest n d
    if Nat.pow 2 64 * 1000000000 ≤ ns then 0 else (ns + 999999) / 1000000
  | _ => 0

end Delay

/-! ## Steps -/

/-- The engine: its settings and the services it may call. -/
structure Engine where
  config : Config
  services : Services

/-- The notice of a condition without a branch that holds. -/
def fallthroughNotice : String := "no condition matched, following default connection"

namespace Engine

/-- The first branch of a condition node that is taken. -/
def takenBranch? (vars : Variables) (branches : List Branch) : Option Branch :=
  branches.find? fun
    | .when expression _ => (Condition.read expression).holds vars
    | .otherwise _ => true

/-- A condition node jumps to where its first taken branch leads, or goes on with a notice. -/
def stepCondition (id : String) (branches : List Branch) (vars : Variables) (ledger : Ledger) :
    StepReport :=
  match takenBranch? vars branches with
  | some b => ⟨.jump b.target, some ("goto " ++ b.target), none, [], vars, ledger⟩
  | none =>
    ⟨.follow, some "fallthrough", none, [.system (some id) fallthroughNotice], vars, ledger⟩

/-- An action node hands out its request and goes on. -/
def stepAction (id : String) (a : Action) (vars : Variables) (ledger : Ledger) : StepReport :=
  let request : ActionRequest := ⟨a.name, interpolateValue vars a.payload⟩
  ⟨.follow, some a.name, none, [.system (some id) ("action: " ++ a.name)], vars,
    { ledger with actions := ledger.actions ++ [request] }⟩

/-- The request of a webhook node. -/
def webhookRequest (config : Config) (w : Webhook) (vars : Variables) : WebhookRequest where
  url := interpolate vars w.url
  method := Text.upper (Text.trim w.method)
  headers := w.headers.map (interpolate vars)
  body := w.body.map (interpolateValue vars)
  timeoutMs := w.timeoutMs.getD config.webhookTimeoutMs

/-- A webhook node calls its service and stores the response or the marker of the failure. -/
def stepWebhook (engine : Engine) (id : String) (w : Webhook) (vars : Variables)
    (ledger : Ledger) : StepReport :=
  let request := webhookRequest engine.config w vars
  let reply := engine.services.webhook ledger.webhooks.length request
  let (outcome, waited) := reply.within engine.services.timer request.timeoutMs
  let ledger := { ledger with webhooks := ledger.webhooks ++ [request] }.wait waited
  match outcome with
  | .ok response =>
    ⟨.follow, some ("status " ++ toString response.status), none, [],
      vars.store w.variableName response.value, ledger⟩
  | .error failure =>
    ⟨.follow, none, some failure, [.system (some id) ("webhook failed: " ++ failure.message)],
      vars.store w.variableName failure.marker, ledger⟩

/-- The request of a node for a generated reply. -/
def aiRequest (p : Prompt) (vars : Variables) : AiRequest :=
  ⟨interpolate vars p.system, interpolate vars p.user, p.model, p.temperature, p.maxTokens⟩

/-- A node for a generated reply shows the reply, or the fallback when there is none. -/
def stepAi (engine : Engine) (id : String) (p : Prompt) (vars : Variables) (ledger : Ledger) :
    StepReport :=
  let request := aiRequest p vars
  let reply := engine.services.ai ledger.ais.length request
  let (outcome, waited) := reply.within engine.services.timer engine.config.aiTimeoutMs
  let ledger := { ledger with ais := ledger.ais ++ [request] }.wait waited
  match outcome with
  | .ok response =>
    ⟨.follow, none, none, [.message id response.text],
      vars.store p.variableName (.text response.text), ledger⟩
  | .error failure =>
    let vars := vars.store p.variableName failure.marker
    let fallback := match engine.config.aiFallback with
      | some text => [Output.message id (interpolate vars text)]
      | none => []
    ⟨.follow, none, some failure,
      .system (some id) ("ai response failed: " ++ failure.message) :: fallback, vars, ledger⟩

/-- A delay node waits, if pauses are kept. -/
def stepDelay (engine : Engine) (id : String) (d : Delay) (vars : Variables) (ledger : Ledger) :
    StepReport :=
  let seconds := d.effective engine.config.maxDelaySeconds
  let outputs := if d.typing then [Output.typing id d.seconds] else []
  let waited := match engine.config.delayPolicy with
    | .sleep => engine.services.timer.elapsed (Delay.waitMs seconds)
    | .skip => 0
  ⟨.follow, some (seconds.plainText ++ "s"), none, outputs, vars, ledger.wait waited⟩

/-- Executes a node. -/
def step (engine : Engine) (node : Node) (vars : Variables) (ledger : Ledger) : StepReport :=
  match node.kind with
  | .trigger => ⟨.follow, none, none, [], vars, ledger⟩
  | .message content =>
    ⟨.follow, none, none, [.message node.id (interpolate vars content)], vars, ledger⟩
  | .question q =>
    ⟨.halt, none, none, [.question node.id (interpolate vars q.content) q.choices], vars, ledger⟩
  | .condition branches => stepCondition node.id branches vars ledger
  | .action a => stepAction node.id a vars ledger
  | .webhook w => engine.stepWebhook node.id w vars ledger
  | .aiResponse p => engine.stepAi node.id p vars ledger
  | .delay d => engine.stepDelay node.id d vars ledger
  | .transfer content =>
    ⟨.terminate .transferred, none, none, [.transfer node.id (interpolate vars content)], vars,
      ledger⟩
  | .finish => ⟨.terminate .ended, none, none, [], vars, ledger⟩

end Engine

end Dialogue
