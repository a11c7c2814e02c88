import BrokerAdmin.Json.Codec

/-!
# Connectors

A connector moves messages between topics and another system: a sink out of topics, a source into
them. This module holds what both kinds share.

## Main definitions

* `ConnectorResources`: what an instance asks for.
* `UpdateOptions`: how a connector is updated.
* `ConnectorException`: something that went wrong in an instance.
* `ConnectorDefinition`: a connector that comes with the cluster.
* `builtinScheme`: how the archive of such a connector is named.
-/

namespace BrokerAdmin

open Json

/-- What the name of an archive begins with that is already on the server. -/
def builtinScheme : String := "builtin://"

/-- What an instance of a connector asks for. -/
structure ConnectorResources where
  /-- Processors. -/
  cpu : Option Binary64 := none
  /-- Memory in bytes. -/
  ram : Option Int := none
  /-- Disk space in bytes. -/
  disk : Option Int := none
  deriving DecidableEq, Repr

/-- The JSON form of the resources of an instance. -/
def ConnectorResources.schema : Schema ConnectorResources where
  blank := {}
  fields := [
    .omittable "cpu" .requiredInArray .float (·.cpu)
      fun t x => { t with cpu := x },
    .omittable "ram" .requiredInArray (.int (.signed 64)) (·.ram)
      fun t x => { t with ram := x },
    .omittable "disk" .requiredInArray (.int (.signed 64)) (·.disk)
      fun t x => { t with disk := x }]
  leftovers := none

/-- How a connector is updated. -/
structure UpdateOptions where
  /-- Whether the stored credentials are replaced. -/
  updateAuthData : Bool
  deriving DecidableEq, Repr

/-- The JSON form of the options of an update. -/
def UpdateOptions.schema : Schema UpdateOptions where
  blank := ⟨false⟩
  fields := [
    .plain "updateAuthData" .required .bool (·.updateAuthData)
      fun t x => { t with updateAuthData := x }]
  leftovers := none

/-- Something that went wrong in an instance of a connector. -/
structure ConnectorException where
  /-- What went wrong. -/
  text : String := ""
  /-- When, in milliseconds since 1970. -/
  timestampMs : Int := 0
  deriving DecidableEq, Repr

/-- The JSON form of an exception. -/
def ConnectorException.schema : Schema ConnectorException where
  blank := {}
  fields := [
    .plain "exceptionString" .optional .string (·.text)
      fun t x => { t with text := x },
    .plain "timestampMs" .optional (.int (.signed 64)) (·.timestampMs)
      fun t x => { t with timestampMs := x }]
  leftovers := none

/-- A connector that comes with the cluster. -/
structure ConnectorDefinition where
  /-- The name. -/
  name : String := ""
  /-- What it connects to. -/
  description : String := ""
  /-- The class of its source. -/
  sourceClass : Option String := none
  /-- The class of its sink. -/
  sinkClass : Option String := none
  /-- The class of the settings of its source. -/
  sourceConfigClass : Option String := none
  /-- The class of the settings of its sink. -/
  sinkConfigClass : Option String := none
  deriving DecidableEq, Repr

/-- The JSON form of a definition. -/
def ConnectorDefinition.schema : Schema ConnectorDefinition where
  blank := {}
  fields := [
    .plain "name" .optional .string (·.name)
      fun t x => { t with name := x },
    .plain "description" .optional .string (·.description)
      fun t x => { t with description := x },
    .omittable "sourceClass" .optional .string (·.sourceClass)
      fun t x => { t with sourceClass := x },
    .omittable "sinkClass" .optional .string (·.sinkClass)
      fun t x => { t with sinkClass := x },
    .omittable "sourceConfigClass" .optional .string (·.sourceConfigClass)
      fun t x => { t with sourceConfigClass := x },
    .omittable "sinkConfigClass" .optional .string (·.sinkConfigClass)
      fun t x => { t with sinkConfigClass := x }]
  leftovers := none

end BrokerAdmin
