import BrokerAdmin.Connector.Basic

/-!
# Sinks

A sink reads topics and writes to another system.

## Main definitions

* `SinkConfig`: what a sink does; whatever is not set is left to the server.
* `SinkStatus`, `SinkInstance`, `SinkInstanceData`: how its instances are doing.
-/

namespace BrokerAdmin

open Json

/-- What a sink does. -/
structure SinkConfig where
  /-- The tenant that owns it. -/
  tenant : String := ""
  /-- The namespace that it lies in. -/
  «namespace» : String := ""
  /-- Its name. -/
  name : String := ""
  /-- The class that does the work. -/
  className : Option String := none
  /-- The subscription it reads with. -/
  subscriptionName : Option String := none
  /-- The topics it reads. -/
  inputs : Option (List String) := none
  /-- The classes that decode each topic. -/
  serdeClassNames : Option (Dict String) := none
  /-- The topics it reads, as a pattern. -/
  topicsPattern : Option String := none
  /-- The schema of each topic. -/
  schemaTypes : Option (Dict String) := none
  /-- Settings of its own. -/
  configs : Option (Dict Value) := none
  /-- The number of instances. -/
  parallelism : Option Int := none
  /-- The package that holds it. -/
  archive : Option String := none
  /-- What happens to messages when an instance fails. -/
  processingGuarantees : Option String := none
  /-- Whether the order of messages is kept. -/
  retainOrdering : Option Bool := none
  /-- Whether messages are acknowledged for it. -/
  autoAck : Option Bool := none
  /-- How long a message may take, in milliseconds. -/
  timeoutMs : Option Int := none
  /-- Whether the subscription goes with it. -/
  cleanupSubscription : Option Bool := none
  /-- Flags for the runtime. -/
  runtimeFlags : Option String := none
  /-- Options for a runtime of the user. -/
  customRuntimeOptions : Option String := none
  /-- What an instance asks for. -/
  resources : Option ConnectorResources := none

/-- The JSON form of a sink, without what is not set. -/
def SinkConfig.schema : Schema SinkConfig where
  blank := {}
  fields := [
    .plain "tenant" .optional .string (·.tenant)
      fun t x => { t with tenant := x },
    .plain "namespace" .optional .string (·.«namespace»)
      fun t x => { t with «namespace» := x },
    .plain "name" .optional .string (·.name)
      fun t x => { t with name := x },
    .omittable "className" .requiredInArray .string (·.className)
      fun t x => { t with className := x },
    .omittable "sourceSubscriptionName" .requiredInArray .string (·.subscriptionName)
      fun t x => { t with subscriptionName := x },
    .omittable "inputs" .requiredInArray (.list .string) (·.inputs)
      fun t x => { t with inputs := x },
    .omittable "topicToSerdeClassName" .requiredInArray (.dict .string) (·.serdeClassNames)
      fun t x => { t with serdeClassNames := x },
    .omittable "topicsPattern" .requiredInArray .string (·.topicsPattern)
      fun t x => { t with topicsPattern := x },
    .omittable "topicToSchemaType" .requiredInArray (.dict .string) (·.schemaTypes)
      fun t x => { t with schemaTypes := x },
    .omittable "configs" .requiredInArray (.dict .value) (·.configs)
      fun t x => { t with configs := x },
    .omittable "parallelism" .requiredInArray (.int (.signed 32)) (·.parallelism)
      fun t x => { t with parallelism := x },
    .omittable "archive" .requiredInArray .string (·.archive)
      fun t x => { t with archive := x },
    .omittable "processingGuarantees" .requiredInArray .string (·.processingGuarantees)
      fun t x => { t with processingGuarantees := x },
    .omittable "retainOrdering" .requiredInArray .bool (·.retainOrdering)
      fun t x => { t with retainOrdering := x },
    .omittable "autoAck" .requiredInArray .bool (·.autoAck)
      fun t x => { t with autoAck := x },
    .omittable "timeoutMs" .requiredInArray (.int (.signed 64)) (·.timeoutMs)
      fun t x => { t with timeoutMs := x },
    .omittable "cleanupSubscription" .requiredInArray .bool (·.cleanupSubscription)
      fun t x => { t with cleanupSubscription := x },
    .omittable "runtimeFlags" .requiredInArray .string (·.runtimeFlags)
      fun t x => { t with runtimeFlags := x },
    .omittable "customRuntimeOptions" .requiredInArray .string (·.customRuntimeOptions)
      fun t x => { t with customRuntimeOptions := x },
    .omittable "resources" .requiredInArray ConnectorResources.schema.codec (·.resources)
      fun t x => { t with resources := x }]
  leftovers := none

/-- How an instance of a sink is doing. -/
structure SinkInstanceData where
  /-- Whether it is running. -/
  running : Bool := false
  /-- Why it is not running. -/
  error : String := ""
  /-- How often it was restarted. -/
  restarts : Int := 0
  /-- The number of messages read from topics. -/
  readCount : Int := 0
  /-- The number of exceptions of the system. -/
  systemExceptionCount : Int := 0
  /-- The latest exceptions of the system. -/
  systemExceptions : List ConnectorException := []
  /-- The number of exceptions of the sink. -/
  sinkExceptionCount : Int := 0
  /-- The latest exceptions of the sink. -/
  sinkExceptions : List ConnectorException := []
  /-- The number of messages written to the other system. -/
  writtenCount : Int := 0
  /-- When it last received a message. -/
  lastReceived : Int := 0
  /-- The worker that runs it. -/
  worker : String := ""
  deriving DecidableEq, Repr

/-- The JSON form of the state of an instance. -/
def SinkInstanceData.schema : Schema SinkInstanceData where
  blank := {}
  fields := [
    .plain "running" .optional .bool (·.running)
      fun t x => { t with running := x },
    .plain "error" .optional .string (·.error)
      fun t x => { t with error := x },
    .plain "numRestarts" .optional (.int (.signed 64)) (·.restarts)
      fun t x => { t with restarts := x },
    .plain "numReadFromPulsar" .optional (.int (.signed 64)) (·.readCount)
      fun t x => { t with readCount := x },
    .plain "numSystemExceptions" .optional (.int (.signed 64)) (·.systemExceptionCount)
      fun t x => { t with systemExceptionCount := x },
    .plain "latestSystemExceptions" .optional (.list ConnectorException.schema.codec) (·.systemExceptions)
      fun t x => { t with systemExceptions := x },
    .plain "numSinkExceptions" .optional (.int (.signed 64)) (·.sinkExceptionCount)
      fun t x => { t with sinkExceptionCount := x },
    .plain "latestSinkExceptions" .optional (.list ConnectorException.schema.codec) (·.sinkExceptions)
      fun t x => { t with sinkExceptions := x },
    .plain "numWrittenToSink" .optional (.int (.signed 64)) (·.writtenCount)
      fun t x => { t with writtenCount := x },
    .plain "lastReceivedTime" .optional (.int (.signed 64)) (·.lastReceived)
      fun t x => { t with lastReceived := x },
    .plain "workerId" .optional .string (·.worker)
      fun t x => { t with worker := x }]
  leftovers := none

/-- An instance of a sink. -/
structure SinkInstance where
  /-- The number of the instance. -/
  instanceId : Int := 0
  /-- How it is doing. -/
  status : SinkInstanceData := {}
  deriving DecidableEq, Repr

/-- The JSON form of an instance. -/
def SinkInstance.schema : Schema SinkInstance where
  blank := {}
  fields := [
    .plain "instanceId" .optional (.int (.signed 32)) (·.instanceId)
      fun t x => { t with instanceId := x },
    .plain "status" .optional SinkInstanceData.schema.codec (·.status)
      fun t x => { t with status := x }]
  leftovers := none

/-- All instances of a sink. -/
structure SinkStatus where
  /-- The number of instances. -/
  instanceCount : Int := 0
  /-- The number of instances that run. -/
  runningCount : Int := 0
  /-- The instances. -/
  instances : List SinkInstance := []
  deriving DecidableEq, Repr

/-- The JSON form of the status of a sink. -/
def SinkStatus.schema : Schema SinkStatus where
  blank := {}
  fields := [
    .plain "numInstances" .optional (.int (.signed 32)) (·.instanceCount)
      fun t x => { t with instanceCount := x },
    .plain "numRunning" .optional (.int (.signed 32)) (·.runningCount)
      fun t x => { t with runningCount := x },
    .plain "instances" .optional (.list SinkInstance.schema.codec) (·.instances)
      fun t x => { t with instances := x }]
  leftovers := none

end BrokerAdmin
