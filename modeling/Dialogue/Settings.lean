/-
Settings: the settings of the engine as they are read from a file and overridden by pairs of a key
and a text, such as environment variables.

Overrides are applied one after the other until one fails, and what was applied before it stays.
Only after the last one the settings as a whole are checked. Unknown keys are skipped.
-/
import Dialogue.Number.Decimal
import Dialogue.Number.Shortest
import Dialogue.Run.Config
import Dialogue.Shape.Run
import Dialogue.Text.Blank
import Dialogue.Text.Quoted

namespace Dialogue

/-- The settings of an installation. -/
structure Settings where
  engine : Config
deriving DecidableEq, Repr

/-- The settings when nothing else is said. -/
def Settings.default : Settings := ⟨.default⟩

instance : Inhabited Settings := ⟨.default⟩

/-- The document of settings. -/
def Settings.toDocument (s : Settings) : Document :=
  Document.record [("engine", s.engine.toDocument)]

/-- The settings that a document describes. -/
def Settings.ofDocument? (d : Document) : Read Settings := do
  let fields ← d.record? ["engine"]
  let engine ← Document.optional? fields "engine" .default Config.ofDocument?
  return ⟨engine⟩

/-! ## Faults -/

/-- Why a text is not the number that it should be. -/
inductive NumberFault
  | noDigits
  | badDigit
  | tooLarge
  | noFloat
  | badFloat
deriving DecidableEq, Repr

/-- The message of a fault in a number. -/
def NumberFault.message : NumberFault → String
  | .noDigits => "cannot parse integer from empty string"
  | .badDigit => "invalid digit found in string"
  | .tooLarge => "number too large to fit in target type"
  | .noFloat => "cannot parse float from empty string"
  | .badFloat => "invalid float literal"

/-- What is wrong with settings. -/
inductive SettingsFault
  | badNumber (key value : String) (cause : NumberFault)
  | badPolicy (key value : String)
  | noSteps
  | delayOutOfRange (seconds : Binary)
deriving DecidableEq, Repr

/-- The greatest number of seconds that pauses may be limited to. -/
def maxDelayLimit : Nat := 3600

/-- The message of a fault. -/
def SettingsFault.message : SettingsFault → String
  | .badNumber key value cause =>
    "Invalid value for " ++ key ++ ": " ++ Text.quoted value ++ ": " ++ cause.message
  | .badPolicy key value => key ++ " must be sleep or skip, got " ++ Text.quoted value
  | .noSteps => "engine.max_steps must be at least 1"
  | .delayOutOfRange seconds =>
    "engine.max_delay_seconds must be between 0 and " ++ toString maxDelayLimit ++ ", got "
      ++ seconds.plainText

/-- What is wrong with settings as a whole. -/
def Settings.fault? (s : Settings) : Option SettingsFault :=
  let seconds := s.engine.maxDelaySeconds
  if s.engine.maxSteps = 0 then some .noSteps
  else if (Binary.zero .double).le seconds && seconds.le (.ofInt .double maxDelayLimit) then none
  else some (.delayOutOfRange seconds)

/-! ## Overrides -/

/-- The natural number that digits write in front of what was read, at most the greatest integer.
The first character that does not fit decides what is wrong. -/
def digitsAfter (n : Nat) : List Char → Except NumberFault Nat
  | [] => .ok n
  | c :: r =>
    if !c.isDigit then .error .badDigit
    else
      let n := 10 * n + digitValue c
      if maxInteger < n then .error .tooLarge else digitsAfter n r

/-- The natural number that a text writes, a plus sign allowed. -/
def readNatural (s : String) : Except NumberFault Nat :=
  match s.toList with
  | [] => .error .noDigits
  | '+' :: c :: r => digitsAfter 0 (c :: r)
  | cs => digitsAfter 0 cs

/-- The double that a text writes. -/
def readDouble (s : String) : Except NumberFault Binary :=
  if s = "" then .error .noFloat
  else match FloatText.read? s.toList with
    | some x => .ok x
    | none => .error .badFloat

/-- A setting that can be overridden. -/
inductive Setting
  | maxSteps
  | webhookTimeoutMs
  | aiTimeoutMs
  | delayPolicy
  | maxDelaySeconds
  | aiFallback
deriving DecidableEq, Repr

/-- The key of a setting. -/
def Setting.key : Setting → String
  | .maxSteps => "CONVOFLOW_MAX_STEPS"
  | .webhookTimeoutMs => "CONVOFLOW_WEBHOOK_TIMEOUT_MS"
  | .aiTimeoutMs => "CONVOFLOW_AI_TIMEOUT_MS"
  | .delayPolicy => "CONVOFLOW_DELAY_POLICY"
  | .maxDelaySeconds => "CONVOFLOW_MAX_DELAY_SECONDS"
  | .aiFallback => "CONVOFLOW_AI_FALLBACK_MESSAGE"

/-- All settings. -/
def Setting.all : List Setting :=
  [.maxSteps, .webhookTimeoutMs, .aiTimeoutMs, .delayPolicy, .maxDelaySeconds, .aiFallback]

/-- The setting with a key. -/
def Setting.ofKey? (key : String) : Option Setting := all.find? fun s => s.key == key

/-- A number read for a setting, or the fault that names the setting. -/
def Setting.number {α : Type} (s : Setting) (value : String)
    (read : String → Except NumberFault α) : Except SettingsFault α :=
  (read value).mapError (.badNumber s.key value)

/-- The policy that a text names, in any case of its letters. -/
def Setting.policy (value : String) : Except SettingsFault DelayPolicy :=
  let word := String.ofList (value.toList.map Char.toLower)
  match Entries.find? word DelayPolicy.named with
  | some p => .ok p
  | none => .error (.badPolicy Setting.delayPolicy.key word)

/-- The settings of the engine with one setting taken from a text. -/
def Config.set (c : Config) (s : Setting) (value : String) : Except SettingsFault Config :=
  match s with
  | .maxSteps => (s.number value readNatural).map fun n => { c with maxSteps := n }
  | .webhookTimeoutMs => (s.number value readNatural).map fun n => { c with webhookTimeoutMs := n }
  | .aiTimeoutMs => (s.number value readNatural).map fun n => { c with aiTimeoutMs := n }
  | .maxDelaySeconds => (s.number value readDouble).map fun x => { c with maxDelaySeconds := x }
  | .delayPolicy => (Setting.policy value).map fun p => { c with delayPolicy := p }
  | .aiFallback => .ok { c with aiFallback := if value = "" then none else some value }

/-- The settings with one pair applied; blanks around the text are ignored. -/
def Settings.set (s : Settings) (pair : String × String) : Except SettingsFault Settings :=
  match Setting.ofKey? pair.1 with
  | none => .ok s
  | some setting => (s.engine.set setting (Text.trim pair.2)).map fun engine => ⟨engine⟩

/-- The settings after a list of pairs, and what went wrong. -/
def Settings.override (s : Settings) : List (String × String) → Settings × Option SettingsFault
  | [] => (s, s.fault?)
  | pair :: rest => match s.set pair with
    | .ok s => s.override rest
    | .error fault => (s, some fault)

end Dialogue
