/-
Findings: what a check of a flow can find. Errors are places where a conversation ends or goes
wrong, warnings are suspicious but harmless. The engine runs flows with findings all the same.
-/
import Dialogue.Condition
import Dialogue.Text.Quoted

namespace Dialogue

/-- How bad a finding is. -/
inductive Severity
  | error
  | warning
deriving DecidableEq, Repr

/-- The word for a severity. -/
def Severity.word : Severity → String
  | .error => "error"
  | .warning => "warning"

/-- Something found in a flow. -/
inductive Finding
  | noNodes
  | blankId
  | repeatedId (id : String) (count : Nat)
  | noTrigger (first : String)
  | extraTrigger (id first : String)
  | unknownSource (source : String)
  | unknownTarget (source target : String)
  | fannedOut (id : String) (count : Nat)
  | droppedAnswer (node : String)
  | noBranches (node : String)
  | unreadableCondition (node expression : String)
  | unknownGoto (node target : String)
  | noUrl (node : String)
  | namelessAction (node : String)
  | unreachable (node : String)
  | silentKeywords
deriving DecidableEq, Repr

namespace Finding

/-- How bad a finding is. -/
def severity : Finding → Severity
  | .blankId => .error
  | .repeatedId .. => .error
  | .unknownSource .. => .error
  | .unknownTarget .. => .error
  | .unreadableCondition .. => .error
  | .unknownGoto .. => .error
  | .noUrl .. => .error
  | _ => .warning

/-- The id that a finding is about. -/
def node? : Finding → Option String
  | .noNodes => none
  | .blankId => none
  | .repeatedId id _ => some id
  | .noTrigger first => some first
  | .extraTrigger id _ => some id
  | .unknownSource _ => none
  | .unknownTarget source _ => some source
  | .fannedOut id _ => some id
  | .droppedAnswer node => some node
  | .noBranches node => some node
  | .unreadableCondition node _ => some node
  | .unknownGoto node _ => some node
  | .noUrl node => some node
  | .namelessAction node => some node
  | .unreachable node => some node
  | .silentKeywords => none

/-- The message of a finding. -/
def message : Finding → String
  | .noNodes => "flow has no nodes"
  | .blankId => "node with empty id"
  | .repeatedId _ count =>
    "node id used " ++ toString count ++ " times, only the first is reachable"
  | .noTrigger _ => "no trigger node, the first node is used as start"
  | .extraTrigger _ first => "extra trigger node, runs start at " ++ first
  | .unknownSource source => "connection from unknown node " ++ source
  | .unknownTarget _ target => "connection to unknown node " ++ target
  | .fannedOut _ count => toString count ++ " outgoing connections, only the first is followed"
  | .droppedAnswer _ => "question has no variable, the answer is dropped"
  | .noBranches _ => "condition has no branches"
  | .unreadableCondition _ expression =>
    "condition " ++ Text.quoted expression ++ " never matches: " ++ Condition.grammarMessage
  | .unknownGoto _ target => "goto unknown node " ++ Text.quoted target
  | .noUrl _ => "webhook has no url"
  | .namelessAction _ => "action has no name"
  | .unreachable _ => "node is unreachable from the start node"
  | .silentKeywords => "keyword trigger without keywords never matches"

/-- Whether a finding is an error. -/
def isError (f : Finding) : Bool := f.severity == .error

/-- The line that shows a finding. -/
def line (f : Finding) : String :=
  f.severity.word ++ ": " ++
    (match f.node? with
      | some id => "[" ++ id ++ "] "
      | none => "") ++ f.message

end Finding

end Dialogue
