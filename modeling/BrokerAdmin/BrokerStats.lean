import BrokerAdmin.Exchange

/-!
# Statistics of a server

Reports grow with the server. Fields that are looked at often have a type; all others are kept as they
are, so that nothing in a report is lost.

## Main definitions

* `MetricsGroup`: figures and what they are about.
* `LoadReport`: how busy a server is.
* `AllocatorStats`: how a server uses its memory pools.
* `BrokerStats.metrics`, `BrokerStats.topics`, …: the requests.
-/

namespace BrokerAdmin

open Json

/-- Figures and what they are about. -/
structure MetricsGroup where
  /-- The figures. -/
  metrics : Dict Value := .empty
  /-- What the figures are about. -/
  dimensions : Dict String := .empty

/-- The JSON form of a group of figures. -/
def MetricsGroup.schema : Schema MetricsGroup where
  blank := {}
  fields := [
    .plain "metrics" .optional (.dict .value) (·.metrics)
      fun t x => { t with metrics := x },
    .plain "dimensions" .optional (.dict .string) (·.dimensions)
      fun t x => { t with dimensions := x }]
  leftovers := none

/-- How much of a resource is used. -/
structure ResourceUsage where
  /-- What is used. -/
  usage : Binary64 := .zero false
  /-- What there is. -/
  limit : Binary64 := .zero false
  deriving DecidableEq, Repr

/-- The JSON form of a usage. -/
def ResourceUsage.schema : Schema ResourceUsage where
  blank := {}
  fields := [
    .plain "usage" .optional .float (·.usage)
      fun t x => { t with usage := x },
    .plain "limit" .optional .float (·.limit)
      fun t x => { t with limit := x }]
  leftovers := none

/-- How busy a server is. -/
structure LoadReport where
  /-- Where the server answers web requests. -/
  webServiceUrl : Option String := none
  /-- Where the server answers clients. -/
  brokerServiceUrl : Option String := none
  /-- Processor time. -/
  cpu : ResourceUsage := {}
  /-- Memory. -/
  memory : ResourceUsage := {}
  /-- Memory outside of the heap. -/
  directMemory : ResourceUsage := {}
  /-- Incoming traffic. -/
  bandwidthIn : ResourceUsage := {}
  /-- Outgoing traffic. -/
  bandwidthOut : ResourceUsage := {}
  /-- Incoming messages a second. -/
  msgRateIn : Binary64 := .zero false
  /-- Outgoing messages a second. -/
  msgRateOut : Binary64 := .zero false
  /-- The number of topics. -/
  topicCount : Int := 0
  /-- The number of bundles. -/
  bundleCount : Int := 0
  /-- The number of consumers. -/
  consumerCount : Int := 0
  /-- The number of producers. -/
  producerCount : Int := 0
  /-- The bundles that the server serves. -/
  bundles : List String := []
  /-- Whatever else the report holds. -/
  extra : Dict Value := .empty

/-- The JSON form of a load report; unknown members are kept. -/
def LoadReport.schema : Schema LoadReport where
  blank := {}
  fields := [
    .plain "webServiceUrl" .optional (.option .string) (·.webServiceUrl)
      fun t x => { t with webServiceUrl := x },
    .plain "pulsarServiceUrl" .optional (.option .string) (·.brokerServiceUrl)
      fun t x => { t with brokerServiceUrl := x },
    .plain "cpu" .optional ResourceUsage.schema.codec (·.cpu)
      fun t x => { t with cpu := x },
    .plain "memory" .optional ResourceUsage.schema.codec (·.memory)
      fun t x => { t with memory := x },
    .plain "directMemory" .optional ResourceUsage.schema.codec (·.directMemory)
      fun t x => { t with directMemory := x },
    .plain "bandwidthIn" .optional ResourceUsage.schema.codec (·.bandwidthIn)
      fun t x => { t with bandwidthIn := x },
    .plain "bandwidthOut" .optional ResourceUsage.schema.codec (·.bandwidthOut)
      fun t x => { t with bandwidthOut := x },
    .plain "msgRateIn" .optional .float (·.msgRateIn)
      fun t x => { t with msgRateIn := x },
    .plain "msgRateOut" .optional .float (·.msgRateOut)
      fun t x => { t with msgRateOut := x },
    .plain "numTopics" .optional (.int (.signed 64)) (·.topicCount)
      fun t x => { t with topicCount := x },
    .plain "numBundles" .optional (.int (.signed 64)) (·.bundleCount)
      fun t x => { t with bundleCount := x },
    .plain "numConsumers" .optional (.int (.signed 64)) (·.consumerCount)
      fun t x => { t with consumerCount := x },
    .plain "numProducers" .optional (.int (.signed 64)) (·.producerCount)
      fun t x => { t with producerCount := x },
    .plain "bundles" .optional (.list .string) (·.bundles)
      fun t x => { t with bundles := x }]
  leftovers := some ⟨(·.extra), fun t key v => { t with extra := t.extra.insert key v }⟩

/-- How a server uses its memory pools. -/
structure AllocatorStats where
  /-- The number of arenas outside of the heap. -/
  directArenaCount : Int := 0
  /-- The number of arenas on the heap. -/
  heapArenaCount : Int := 0
  /-- The number of caches of threads. -/
  threadCacheCount : Int := 0
  /-- The size of the caches for normal blocks. -/
  normalCacheSize : Int := 0
  /-- The size of the caches for small blocks. -/
  smallCacheSize : Int := 0
  /-- The arenas outside of the heap. -/
  directArenas : List Value := []
  /-- The arenas on the heap. -/
  heapArenas : List Value := []
  /-- Whatever else the statistics hold. -/
  extra : Dict Value := .empty

/-- The JSON form of the statistics of an allocator; unknown members are kept. -/
def AllocatorStats.schema : Schema AllocatorStats where
  blank := {}
  fields := [
    .plain "numDirectArenas" .optional (.int (.signed 64)) (·.directArenaCount)
      fun t x => { t with directArenaCount := x },
    .plain "numHeapArenas" .optional (.int (.signed 64)) (·.heapArenaCount)
      fun t x => { t with heapArenaCount := x },
    .plain "numThreadLocalCaches" .optional (.int (.signed 64)) (·.threadCacheCount)
      fun t x => { t with threadCacheCount := x },
    .plain "normalCacheSize" .optional (.int (.signed 64)) (·.normalCacheSize)
      fun t x => { t with normalCacheSize := x },
    .plain "smallCacheSize" .optional (.int (.signed 64)) (·.smallCacheSize)
      fun t x => { t with smallCacheSize := x },
    .plain "directArenas" .optional (.list .value) (·.directArenas)
      fun t x => { t with directArenas := x },
    .plain "heapArenas" .optional (.list .value) (·.heapArenas)
      fun t x => { t with heapArenas := x }]
  leftovers := some ⟨(·.extra), fun t key v => { t with extra := t.extra.insert key v }⟩

namespace BrokerStats

/-- Where a kind of statistics is. -/
def endpoint (version : ApiVersion) (kind : String) : Endpoint :=
  (Endpoint.ofVersion version "/broker-stats").add [kind]

/-- The figures for monitoring. -/
def metrics (version : ApiVersion) : Exchange Error (List MetricsGroup) :=
  .get MetricsGroup.schema.codec.list (endpoint version "metrics")

/-- The figures of the runtime of the server. -/
def mbeans (version : ApiVersion) : Exchange Error (List MetricsGroup) :=
  .get MetricsGroup.schema.codec.list (endpoint version "mbeans")

/-- The statistics of all topics, as the text that the server gives. -/
def topics (version : ApiVersion) : Exchange Error String := do
  let body ← Exchange.fetch (endpoint version "topics")
  return Utf8.decodeLossy body

/-- How busy the server is. -/
def loadReport (version : ApiVersion) : Exchange Error LoadReport :=
  .get LoadReport.schema.codec (endpoint version "load-report")

/-- How the server uses the memory pools of an allocator. -/
def allocatorStats (version : ApiVersion) (allocator : String) : Exchange Error AllocatorStats :=
  .get AllocatorStats.schema.codec ((endpoint version "allocator-stats").add [allocator])

end BrokerStats

end BrokerAdmin
