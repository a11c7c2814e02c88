import BrokerAdmin.Connector.Calls
import BrokerAdmin.Quoted

/-!
# Settings of connectors in files

The settings of a connector are written down as JSON in a file.

## Main definitions

* `ConfigError`: why a file holds no settings.
* `ConnectorKind.load`: the settings in a file.
-/

namespace BrokerAdmin

/-- Why a file holds no settings. -/
inductive ConfigFault where
  /-- It cannot be read. -/
  | unreadable (error : FileError)
  /-- It is not the JSON asked for. -/
  | invalid (fault : Json.ReadFault)
  deriving DecidableEq, Repr

/-- Settings that cannot be taken from a file. -/
structure ConfigError where
  /-- What the settings are for. -/
  label : String
  /-- The file. -/
  path : String
  /-- Why it holds none. -/
  fault : ConfigFault
  deriving DecidableEq, Repr

namespace ConfigError

/-- The wording of the error, without its cause. -/
def message (e : ConfigError) : String :=
  let path := Quoted.encode e.path
  match e.fault with
  | .unreadable _ => "Failed to read " ++ e.label ++ " config from " ++ path
  | .invalid _ => "Invalid " ++ e.label ++ " config in " ++ path

/-- The wording of the error followed by that of its cause. -/
def chain (e : ConfigError) : List String :=
  match e.fault with
  | .unreadable error => [e.message, error.message]
  | .invalid fault => [e.message, Error.faultMessage fault]

end ConfigError

/-- The text in a file. -/
def Exchange.textFile (path : String) : Exchange FileError String :=
  .readFile path fun content => ofExcept do
    match Utf8.decode (← content) with
    | some text => .ok text
    | none => .error .notText

/-- The settings in a file. -/
def ConnectorKind.load {C S I : Type} (kind : ConnectorKind C S I) (path : String) :
    Exchange ConfigError C := do
  let text ← (Exchange.textFile path).mapError fun e => ⟨kind.label, path, .unreadable e⟩
  Exchange.ofExcept
    ((kind.config.ofString text).mapError fun fault => ⟨kind.label, path, .invalid fault⟩)

end BrokerAdmin
