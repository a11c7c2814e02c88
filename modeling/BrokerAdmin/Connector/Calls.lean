import BrokerAdmin.Connector.Sink
import BrokerAdmin.Connector.Source
import BrokerAdmin.Exchange

/-!
# Requests for connectors

Sinks and sources are administered alike; they differ in their settings, in what they report, and in
a few names. These differences make up a `ConnectorKind`, and each request is said once for both.

A connector is made and changed with a form. It holds the settings and, for a change, the options.
The archive with the code is uploaded in the form, or the form says where the server finds it; the
archive of a connector that comes with the cluster is on the server already.

## Main definitions

* `ConnectorKind`, `ConnectorKind.sinks`, `ConnectorKind.sources`: the two kinds of connectors.
* `ConnectorName`: which connector is meant.
* `Package`: where the archive comes from.
* `ConnectorKind.create`, `ConnectorKind.update`, …: the requests.
-/

namespace BrokerAdmin

/-- Which connector is meant. -/
structure ConnectorName where
  /-- The tenant. -/
  tenant : String
  /-- The namespace. -/
  «namespace» : String
  /-- The name in the namespace. -/
  name : String
  deriving DecidableEq, Repr

/-- What distinguishes sinks from sources. They have settings of type `C`, a status of type `S`, and a
status of type `I` for each instance. -/
structure ConnectorKind (C S I : Type) where
  /-- What a connector of this kind is called. -/
  label : String
  /-- The part of the interface. -/
  component : String
  /-- The name of the part of a form that holds the settings. -/
  configPart : String
  /-- Where the connectors of the cluster are. -/
  builtin : String
  /-- Where the server is told to look for connectors again. -/
  reload : String
  /-- Which connector settings are for. -/
  nameOf : C → ConnectorName
  /-- The JSON form of settings. -/
  config : Json.Codec C
  /-- The JSON form of a status. -/
  status : Json.Codec S
  /-- The JSON form of the status of an instance. -/
  instanceStatus : Json.Codec I

/-- Where the archive of a connector comes from. -/
inductive Package where
  /-- From a file, or from the server if its path says so; without a path the settings say where. -/
  | archive (path : Option String)
  /-- From an address that the server reads. -/
  | url (url : String)
  deriving DecidableEq, Repr

/-- What instances of a connector can be told to do. -/
inductive ConnectorAction where
  /-- Stop and start again. -/
  | restart
  /-- Stop. -/
  | stop
  /-- Start. -/
  | start
  deriving DecidableEq, Repr

/-- The word for an action. -/
def ConnectorAction.toText : ConnectorAction → String
  | .restart => "restart"
  | .stop => "stop"
  | .start => "start"

namespace ConnectorKind

variable {C S I : Type}

/-- Sink connectors. -/
def sinks : ConnectorKind SinkConfig SinkStatus SinkInstanceData where
  label := "sink"
  component := "/sinks"
  configPart := "sinkConfig"
  builtin := "builtinsinks"
  reload := "reloadBuiltInSinks"
  nameOf c := ⟨c.tenant, c.namespace, c.name⟩
  config := SinkConfig.schema.codec
  status := SinkStatus.schema.codec
  instanceStatus := SinkInstanceData.schema.codec

/-- Source connectors. -/
def sources : ConnectorKind SourceConfig SourceStatus SourceInstanceData where
  label := "source"
  component := "/sources"
  configPart := "sourceConfig"
  builtin := "builtinsources"
  reload := "reloadBuiltInSources"
  nameOf c := ⟨c.tenant, c.namespace, c.name⟩
  config := SourceConfig.schema.codec
  status := SourceStatus.schema.codec
  instanceStatus := SourceInstanceData.schema.codec

/-- Where all connectors of a kind are. -/
def root (kind : ConnectorKind C S I) (version : ApiVersion) : Endpoint :=
  .ofVersion version kind.component

/-- Where a connector is. -/
def endpoint (kind : ConnectorKind C S I) (version : ApiVersion) (name : ConnectorName) : Endpoint :=
  (kind.root version).add [name.tenant, name.namespace, name.name]

/-- The segments that stand for an instance, or for all of them. -/
def instanceSegments : Option Int → List String
  | some id => [intText id]
  | none => []

/-! ### Forms -/

/-- A form with the archive at a path, unless the server has it already. -/
def withArchive (form : Form) : Option String → Exchange Error Form
  | none => return form
  | some path =>
    if (dropFront builtinScheme.toList path.toList).isSome then return form
    else
      match FilePath.fileName path with
      | none => .fail (.invalidConfig ("archive path has no file name: " ++ path))
      | some fileName => do
        let content ← Exchange.file path
        return form.file "data" fileName content

/-- A form with settings and options. -/
def withConfig (kind : ConnectorKind C S I) (form : Form) (config : C)
    (options : Option UpdateOptions) : Form :=
  let form := form.json kind.configPart (kind.config.write config)
  match options with
  | some options => form.json "updateOptions" (UpdateOptions.schema.codec.write options)
  | none => form

/-- The form that makes or changes a connector. -/
def form (kind : ConnectorKind C S I) (config : C) (options : Option UpdateOptions) :
    Package → Exchange Error Form
  | .archive path => withArchive (kind.withConfig {} config options) path
  | .url url => return kind.withConfig (Form.text {} "url" url) config options

/-! ### Requests -/

/-- The names of the connectors of a namespace. -/
def list (kind : ConnectorKind C S I) (version : ApiVersion) (tenant ofNamespace : String) :
    Exchange Error (List String) :=
  .get (.list .string) ((kind.root version).add [tenant, ofNamespace])

/-- The settings of a connector. -/
def get (kind : ConnectorKind C S I) (version : ApiVersion) (name : ConnectorName) :
    Exchange Error C :=
  .get kind.config (kind.endpoint version name)

/-- Make a connector. -/
def create (kind : ConnectorKind C S I) (version : ApiVersion) (config : C) (package : Package) :
    Exchange Error Unit := do
  let form ← kind.form config none package
  .order .post (kind.endpoint version (kind.nameOf config)) (.form form)

/-- Change a connector. -/
def update (kind : ConnectorKind C S I) (version : ApiVersion) (config : C) (package : Package)
    (options : Option UpdateOptions) : Exchange Error Unit := do
  let form ← kind.form config options package
  .order .put (kind.endpoint version (kind.nameOf config)) (.form form)

/-- Remove a connector. -/
def delete (kind : ConnectorKind C S I) (version : ApiVersion) (name : ConnectorName) :
    Exchange Error Unit :=
  .order .delete (kind.endpoint version name)

/-- How a connector is doing. -/
def getStatus (kind : ConnectorKind C S I) (version : ApiVersion) (name : ConnectorName) :
    Exchange Error S :=
  .get kind.status ((kind.endpoint version name).add ["status"])

/-- How an instance of a connector is doing. -/
def getInstanceStatus (kind : ConnectorKind C S I) (version : ApiVersion) (name : ConnectorName)
    (id : Int) : Exchange Error I :=
  .get kind.instanceStatus ((kind.endpoint version name).add [intText id, "status"])

/-- Tell an instance of a connector, or all of them, what to do. -/
def act (kind : ConnectorKind C S I) (version : ApiVersion) (name : ConnectorName)
    (id : Option Int) (action : ConnectorAction) : Exchange Error Unit :=
  .order .post ((kind.endpoint version name).add (instanceSegments id ++ [action.toText]))

/-- The connectors that come with the cluster. -/
def listBuiltin (kind : ConnectorKind C S I) (version : ApiVersion) :
    Exchange Error (List ConnectorDefinition) :=
  .get ConnectorDefinition.schema.codec.list ((kind.root version).add [kind.builtin])

/-- Let the server look for the connectors that come with the cluster again. -/
def reloadBuiltin (kind : ConnectorKind C S I) (version : ApiVersion) : Exchange Error Unit :=
  .order .post ((kind.root version).add [kind.reload])

end ConnectorKind

end BrokerAdmin
