/-
Conversations: messages fed to the engine one by one, the session of each turn handed to the next,
until a turn completes. Messages that are left over are ignored.
-/
import Dialogue.Run.Walk

namespace Dialogue

/-- A turn of a conversation. -/
structure Turn where
  inbound : String
  result : Result

/-- A conversation from its first message on: its turns, the session that it leaves and why it
stopped, if there was a message at all. -/
structure Conversation where
  turns : List Turn
  finalSession : Session
  completed : Bool
  termination? : Option Termination

/-! ## Conversations under way -/

/-- A conversation under way: the turns so far, the session to go on from and why the last turn
stopped. -/
structure Talk where
  turns : List Turn
  session : Option Session
  termination? : Option Termination

namespace Talk

/-- A conversation before its first message. -/
def start : Talk := ⟨[], none, none⟩

/-- A conversation one turn later. -/
def after (t : Talk) (inbound : String) (result : Result) : Talk :=
  ⟨t.turns ++ [⟨inbound, result⟩], some result.session, some result.termination⟩

/-- A conversation that goes no further. -/
def conversation (t : Talk) : Conversation where
  turns := t.turns
  finalSession := t.session.getD .new
  completed := t.termination?.any Termination.isCompleted
  termination? := t.termination?

end Talk

namespace Engine

/-- Goes on with a conversation until a turn completes or there is no message left. -/
def talk (engine : Engine) (flow : Flow) : Talk → List String → Ledger → Talk × Ledger
  | t, [], ledger => (t, ledger)
  | t, inbound :: rest, ledger =>
    let (result, ledger) := engine.run flow t.session inbound ledger
    let t := t.after inbound result
    if result.completed then (t, ledger) else engine.talk flow t rest ledger

/-- The conversation about a list of messages. -/
def converse (engine : Engine) (flow : Flow) (inputs : List String) (ledger : Ledger) :
    Conversation × Ledger :=
  let (t, ledger) := engine.talk flow .start inputs ledger
  (t.conversation, ledger)

end Engine

namespace Conversation

/-- The texts that the user sees, over all turns. -/
def messages (c : Conversation) : List String := c.turns.flatMap (·.result.messages)

/-- The lines of a turn: what came in and what the user sees. -/
def turnLines (t : Turn) : List String :=
  ("> " ++ t.inbound) :: t.result.messages.map ("< " ++ ·)

/-- The conversation as lines of text. -/
def transcript (c : Conversation) : List String := c.turns.flatMap turnLines

end Conversation

end Dialogue
