import BrokerAdmin.Connector.Basic

/-!
# Sources

A source reads another system and writes to a topic.

## Main definitions

* `SourceConfig`: what a source does; whatever is not set is left to the server.
* `SourceStatus`, `SourceInstance`, `SourceInstanceData`: how its instances are doing.
-/

namespace BrokerAdmin

open Json

/-- What a source does. -/
structure SourceConfig where
  /-- The tenant that owns it. -/
  tenant : String := ""
  /-- The namespace that it lies in. -/
  «namespace» : String := ""
  /-- Its name. -/
  name : String := ""
  /-- The class that does the work. -/
  className : Option String := none
  /-- The topic it writes. -/
  topicName : Option String := none
  /-- The class that encodes messages. -/
  serdeClassName : Option String := none
  /-- The schema of the topic. -/
  schemaType : Option String := none
  /-- Settings of its own. -/
  configs : Option (Dict Value) := none
  /-- Where its secrets are kept. -/
  secrets : Option (Dict Value) := none
  /-- The number of instances. -/
  parallelism : Option Int := none
  /-- What happens to messages when an instance fails. -/
  processingGuarantees : Option String := none
  /-- What an instance asks for. -/
  resources : Option ConnectorResources := none
  /-- The package that holds it. -/
  archive : Option String := none
  /-- Flags for the runtime. -/
  runtimeFlags : Option String := none
  /-- Options for a runtime of the user. -/
  customRuntimeOptions : Option String := none

/-- The JSON form of a source, without what is not set. -/
def SourceConfig.schema : Schema SourceConfig where
  blank := {}
  fields := [
    .plain "tenant" .optional .string (·.tenant)
      fun t x => { t with tenant := x },
    .plain "namespace" .optional .string (·.«namespace»)
      fun t x => { t with «namespace» := x },
    .plain "name" .optional .string (·.name)
      fun t x => { t with name := x },
    .omittable "className" .requiredInArray .string (·.className)
      fun t x => { t with className := x },
    .omittable "topicName" .requiredInArray .string (·.topicName)
      fun t x => { t with topicName := x },
    .omittable "serdeClassName" .requiredInArray .string (·.serdeClassName)
      fun t x => { t with serdeClassName := x },
    .omittable "schemaType" .requiredInArray .string (·.schemaType)
      fun t x => { t with schemaType := x },
    .omittable "configs" .requiredInArray (.dict .value) (·.configs)
      fun t x => { t with configs := x },
    .omittable "secrets" .requiredInArray (.dict .value) (·.secrets)
      fun t x => { t with secrets := x },
    .omittable "parallelism" .requiredInArray (.int (.signed 32)) (·.parallelism)
      fun t x => { t with parallelism := x },
    .omittable "processingGuarantees" .requiredInArray .string (·.processingGuarantees)
      fun t x => { t with processingGuarantees := x },
    .omittable "resources" .requiredInArray ConnectorResources.schema.codec (·.resources)
      fun t x => { t with resources := x },
    .omittable "archive" .requiredInArray .string (·.archive)
      fun t x => { t with archive := x },
    .omittable "runtimeFlags" .requiredInArray .string (·.runtimeFlags)
      fun t x => { t with runtimeFlags := x },
    .omittable "customRuntimeOptions" .requiredInArray .string (·.customRuntimeOptions)
      fun t x => { t with customRuntimeOptions := x }]
  leftovers := none

/-- How an instance of a source is doing. -/
structure SourceInstanceData where
  /-- Whether it is running. -/
  running : Bool := false
  /-- Why it is not running. -/
  error : String := ""
  /-- How often it was restarted. -/
  restarts : Int := 0
  /-- The number of messages received from the other system. -/
  receivedCount : Int := 0
  /-- The number of exceptions of the system. -/
  systemExceptionCount : Int := 0
  /-- The latest exceptions of the system. -/
  systemExceptions : List ConnectorException := []
  /-- The number of exceptions of the source. -/
  sourceExceptionCount : Int := 0
  /-- The latest exceptions of the source. -/
  sourceExceptions : List ConnectorException := []
  /-- The number of messages written to the topic. -/
  writtenCount : Int := 0
  /-- When it last received a message. -/
  lastReceived : Int := 0
  /-- The worker that runs it. -/
  worker : String := ""
  deriving DecidableEq, Repr

/-- The JSON form of the state of an instance. -/
def SourceInstanceData.schema : Schema SourceInstanceData where
  blank := {}
  fields := [
    .plain "running" .optional .bool (·.running)
      fun t x => { t with running := x },
    .plain "error" .optional .string (·.error)
      fun t x => { t with error := x },
    .plain "numRestarts" .optional (.int (.signed 64)) (·.restarts)
      fun t x => { t with restarts := x },
    .plain "numReceivedFromSource" .optional (.int (.signed 64)) (·.receivedCount)
      fun t x => { t with receivedCount := x },
    .plain "numSystemExceptions" .optional (.int (.signed 64)) (·.systemExceptionCount)
      fun t x => { t with systemExceptionCount := x },
    .plain "latestSystemExceptions" .optional (.list ConnectorException.schema.codec) (·.systemExceptions)
      fun t x => { t with systemExceptions := x },
    .plain "numSourceExceptions" .optional (.int (.signed 64)) (·.sourceExceptionCount)
      fun t x => { t with sourceExceptionCount := x },
    .plain "latestSourceExceptions" .optional (.list ConnectorException.schema.codec) (·.sourceExceptions)
      fun t x => { t with sourceExceptions := x },
    .plain "numWritten" .optional (.int (.signed 64)) (·.writtenCount)
      fun t x => { t with writtenCount := x },
    .plain "lastReceivedTime" .optional (.int (.signed 64)) (·.lastReceived)
      fun t x => { t with lastReceived := x },
    .plain "workerId" .optional .string (·.worker)
      fun t x => { t with worker := x }]
  leftovers := none

/-- An instance of a source. -/
structure SourceInstance where
  /-- The number of the instance. -/
  instanceId : Int := 0
  /-- How it is doing. -/
  status : SourceInstanceData := {}
  deriving DecidableEq, Repr

/-- The JSON form of an instance. -/
def SourceInstance.schema : Schema SourceInstance where
  blank := {}
  fields := [
    .plain "instanceId" .optional (.int (.signed 32)) (·.instanceId)
      fun t x => { t with instanceId := x },
    .plain "status" .optional SourceInstanceData.schema.codec (·.status)
      fun t x => { t with status := x }]
  leftovers := none

/-- All instances of a source. -/
structure SourceStatus where
  /-- The number of instances. -/
  instanceCount : Int := 0
  /-- The number of instances that run. -/
  runningCount : Int := 0
  /-- The instances. -/
  instances : List SourceInstance := []
  deriving DecidableEq, Repr

/-- The JSON form of the status of a source. -/
def SourceStatus.schema : Schema SourceStatus where
  blank := {}
  fields := [
    .plain "numInstances" .optional (.int (.signed 32)) (·.instanceCount)
      fun t x => { t with instanceCount := x },
    .plain "numRunning" .optional (.int (.signed 32)) (·.runningCount)
      fun t x => { t with runningCount := x },
    .plain "instances" .optional (.list SourceInstance.schema.codec) (·.instances)
      fun t x => { t with instances := x }]
  leftovers := none

end BrokerAdmin
