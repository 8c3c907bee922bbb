import BraceScript.Config.Check
import BraceScript.Host
import BraceScript.Json.Read
import BraceScript.Text.Encoding
import BraceScript.Text.Lines

/-!
# Loading configurations

A configuration file is one that the command line names, or the first that there is of one in the
working directory and one in the home directory. Without any the usual configuration holds.
-/

namespace BraceScript.Config

open Files

/-- Why there is no configuration. -/
inductive LoadError
  | notFound (path : String)
  | unreadable (path : String) (error : JsonValue.Error)
  | notObject (path : String)
  | invalid (path : String) (issues : List Issue)

/-- The wording of a fault in a file. -/
def invalidFile (path reason : String) : String :=
  "Invalid configuration file " ++ path ++ ": " ++ reason

/-- The wording of why there is no configuration. -/
def LoadError.message : LoadError → String
  | .notFound p => "Configuration file not found: " ++ p
  | .unreadable p e => invalidFile p e.message
  | .notObject p => invalidFile p "expected a JSON object"
  | .invalid p is => invalidFile p (issuesText is)

/-- The configuration that the text of a file holds. -/
def ofText (path : String) (text : List Char) : Except Failure (Except LoadError Config) :=
  match JsonValue.parse text with
  | .error e =>
    match e.fault with
    | .digits n => .error (.hugeNumber n)
    | _ => .ok (.error (.unreadable path e))
  | .ok (.object members) => .ok ((ofMembers members).mapError (.invalid path))
  | .ok _ => .ok (.error (.notObject path))

/-- The configuration that the bytes of a file hold. -/
def ofBytes (path : String) (bytes : Bytes) : Except Failure (Except LoadError Config) :=
  match Text.Encoding.utf8.decode bytes with
  | .error e => .error (.undecodable e)
  | .ok cs => ofText path (Text.unifyBreaks cs)

/-- The configuration in a file, if there is such a file. -/
def loadFrom (path : String) : Act (Option (Except LoadError Config)) := do
  match ← look path with
  | .file bytes =>
    tell (.configuration path)
    match ofBytes path bytes with
    | .ok r => return some r
    | .error f => throw f
  | _ => return none

/-- The name of a configuration file in the working directory. -/
def localPath : String := "csrun.json"

/-- The path of a configuration file in the home directory. -/
def homePath (home : String) : String := join (join home ".csrun") "config.json"

/-- Loads the configuration from a file, or from the usual places. -/
def load : Option String → Act (Except LoadError Config)
  | some path => do return (← loadFrom path).getD (.error (.notFound path))
  | none => do
    match ← loadFrom localPath with
    | some r => return r
    | none =>
      match ← loadFrom (homePath (← get).home) with
      | some r => return r
      | none =>
        tell .defaultConfiguration
        return .ok .default

end BraceScript.Config
