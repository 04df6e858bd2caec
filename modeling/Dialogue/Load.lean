/-
Loading and saving: flows and settings as texts and files, in JSON or YAML. A file is a path and its
content, if it is there; which of the two formats it is in, is seen from its extension unless the
caller says so.
-/
import Dialogue.Environment
import Dialogue.Json.Read
import Dialogue.Lint.Report
import Dialogue.Settings
import Dialogue.Shape.Flow
import Dialogue.Yaml.Read
import Dialogue.Yaml.Print

namespace Dialogue

/-- The formats of files. -/
inductive Format
  | json
  | yaml
deriving DecidableEq, Repr

namespace Format

/-- The name of a format. -/
def name : Format → String
  | .json => "JSON"
  | .yaml => "YAML"

/-- What a text holds. In JSON no part is shared. -/
def source? : Format → String → Option Source
  | .json, text => (Json.document? text).map (⟨·, 0⟩)
  | .yaml, text => Yaml.source? text

/-- The text of a file that holds a document. -/
def render : Format → Document → String
  | .json => Json.pretty 0
  | .yaml => Yaml.render

/-- The extension of a file name: what stands behind its last dot, unless nothing stands before
it. -/
def extension? (name : List Char) : Option (List Char) :=
  let behind := name.reverse.takeWhile (· ≠ '.')
  match name.reverse.dropWhile (· ≠ '.') with
  | _ :: _ :: _ => some behind.reverse
  | _ => none

/-- The format of a file with a name: YAML unless the extension says JSON, in any case of its
letters. -/
def ofName (name : String) : Format :=
  if (extension? name.toList).map (List.map Char.toLower) = some ['j', 's', 'o', 'n'] then .json
  else .yaml

end Format

/-- A file: the directory it is in, its name, and its content if it exists. -/
structure File where
  directory : String
  name : String
  content : Option String
deriving DecidableEq, Repr

/-- The greatest number of bytes in the name of a file. -/
def maxNameBytes : Nat := 255

/-- The path of a file as messages show it. -/
def File.path (f : File) : String := Text.quoted (f.directory ++ "/" ++ f.name)

/-- The text of a file, if it exists. No file has a name that is too long or holds a NUL. -/
def File.text? (f : File) : Option String :=
  if f.name.utf8ByteSize ≤ maxNameBytes ∧ '\x00' ∉ f.name.toList then f.content else none

/-- Why something could not be loaded. -/
inductive LoadFault
  | missing (kind path : String)
  | noFlow (format : Format)
  | noSettings (format : Format)
  | refusedFlow (path reason : String)
  | faultySettings (fault : SettingsFault)
  | inSettingsFile (path : String) (cause : LoadFault)
deriving DecidableEq, Repr

/-- The message of a fault, from the outermost cause to the innermost. -/
def LoadFault.message : LoadFault → String
  | .missing kind path => "Failed to read " ++ kind ++ " file: " ++ path
  | .noFlow format => "Failed to parse " ++ format.name ++ " flow definition"
  | .noSettings format => "Failed to parse " ++ format.name ++ " engine settings"
  | .refusedFlow path reason => "Flow in " ++ path ++ " failed validation: " ++ reason
  | .faultySettings fault => fault.message
  | .inSettingsFile path cause => "Invalid settings file: " ++ path ++ ": " ++ cause.message

/-! ## Flows -/

namespace Flow

/-- The flow that a text holds. -/
def parse (format : Format) (text : String) : Except LoadFault Flow :=
  match (format.source? text).bind (·.read? Flow.ofDocument?) with
  | some f => .ok f
  | none => .error (.noFlow format)

/-- The flow in a file of a known format. -/
def loadAs (format : Format) (file : File) : Except LoadFault Flow :=
  match file.text? with
  | some text => parse format text
  | none => .error (.missing format.name file.path)

/-- The flow in a file. -/
def load (file : File) : Except LoadFault Flow := loadAs (.ofName file.name) file

/-- The flow in a file, refused when there are errors in it. -/
def loadChecked (file : File) : Except LoadFault Flow :=
  match load file with
  | .ok f => match f.refusal? with
    | some reason => .error (.refusedFlow file.path reason)
    | none => .ok f
  | .error fault => .error fault

/-- The content of a file that holds the flow. -/
def save (format : Format) (f : Flow) : String := format.render f.toDocument

end Flow

/-! ## Settings -/

namespace Settings

/-- The settings that a text holds. -/
def parse (format : Format) (text : String) : Except LoadFault Settings :=
  match (format.source? text).bind (·.read? Settings.ofDocument?) with
  | some s => match s.fault? with
    | some fault => .error (.faultySettings fault)
    | none => .ok s
  | none => .error (.noSettings format)

/-- The settings in a file. -/
def load (file : File) : Except LoadFault Settings :=
  match file.text? with
  | some text => (parse (.ofName file.name) text).mapError (.inSettingsFile file.path)
  | none => .error (.missing "settings" file.path)

/-- The settings in a file, or the default ones, under the overrides of an environment. -/
def loadWith (file : Option File) (environment : Environment) : Except LoadFault Settings :=
  let base := match file with
    | some file => load file
    | none => .ok .default
  match base with
  | .ok s => match s.override environment.pairs with
    | (_, some fault) => .error (.faultySettings fault)
    | (s, none) => .ok s
  | .error fault => .error fault

end Settings

end Dialogue
