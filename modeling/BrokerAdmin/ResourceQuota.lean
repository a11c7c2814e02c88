import BrokerAdmin.Exchange

/-!
# Resource quotas and bundles

The topics of a namespace are divided into bundles by ranges of a hash. A quota says how much a bundle
is expected to need.

## Main definitions

* `ResourceQuota`, `ResourceQuota.standard`: a quota, and the one that holds unless told otherwise.
* `Bundle`: what a quota is set for.
* `ResourceQuota.get`, `ResourceQuota.set`, `ResourceQuota.reset`: the requests for a bundle, beside
  `ResourceQuota.getDefault` and `ResourceQuota.setDefault` for the quota of new bundles.
* `BundleLayout`: the bundles of a namespace.
-/

namespace BrokerAdmin

open Json

/-- How much a bundle is expected to need. -/
structure ResourceQuota where
  /-- Incoming messages a second. -/
  msgRateIn : Binary64
  /-- Outgoing messages a second. -/
  msgRateOut : Binary64
  /-- Incoming bytes a second. -/
  bandwidthIn : Binary64
  /-- Outgoing bytes a second. -/
  bandwidthOut : Binary64
  /-- Memory in megabytes. -/
  memory : Binary64
  /-- Whether the server may adjust the quota. -/
  dynamic : Bool := true
  deriving DecidableEq, Repr

/-- The quota of a bundle that has none of its own. -/
def ResourceQuota.standard : ResourceQuota where
  msgRateIn := .ofNat 40
  msgRateOut := .ofNat 120
  bandwidthIn := .ofNat 100000
  bandwidthOut := .ofNat 400000
  memory := .ofNat 100

/-- The JSON form of a quota. -/
def ResourceQuota.schema : Schema ResourceQuota where
  blank := .standard
  fields := [
    .plain "msgRateIn" .required .float (·.msgRateIn)
      fun t x => { t with msgRateIn := x },
    .plain "msgRateOut" .required .float (·.msgRateOut)
      fun t x => { t with msgRateOut := x },
    .plain "bandwidthIn" .required .float (·.bandwidthIn)
      fun t x => { t with bandwidthIn := x },
    .plain "bandwidthOut" .required .float (·.bandwidthOut)
      fun t x => { t with bandwidthOut := x },
    .plain "memory" .required .float (·.memory)
      fun t x => { t with memory := x },
    .plain "dynamic" .optional .bool (·.dynamic)
      fun t x => { t with dynamic := x }]
  leftovers := none

/-- A bundle of a namespace. -/
structure Bundle where
  /-- The namespace, behind its tenant and a slash. -/
  ofNamespace : String
  /-- The range of hashes. -/
  range : String
  deriving DecidableEq, Repr

namespace ResourceQuota

/-- Where the quota of new bundles is. -/
def root (version : ApiVersion) : Endpoint := .ofVersion version "/resource-quotas"

/-- Where the quota of a bundle is. Each piece of the name of the namespace is a segment. -/
def endpoint (version : ApiVersion) (bundle : Bundle) : Endpoint :=
  (root version).add
    ((splitFields '/' bundle.ofNamespace.toList).map String.ofList ++ [bundle.range])

/-- The quota of new bundles. -/
def getDefault (version : ApiVersion) : Exchange Error ResourceQuota :=
  .get schema.codec (root version)

/-- Set the quota of new bundles. -/
def setDefault (version : ApiVersion) (quota : ResourceQuota) : Exchange Error Unit :=
  .order .post (root version) (.ofValue schema.codec quota)

/-- The quota of a bundle. -/
def get (version : ApiVersion) (bundle : Bundle) : Exchange Error ResourceQuota :=
  .get schema.codec (endpoint version bundle)

/-- Set the quota of a bundle. -/
def set (version : ApiVersion) (bundle : Bundle) (quota : ResourceQuota) : Exchange Error Unit :=
  .order .post (endpoint version bundle) (.ofValue schema.codec quota)

/-- Take its own quota from a bundle. -/
def reset (version : ApiVersion) (bundle : Bundle) : Exchange Error Unit :=
  .order .delete (endpoint version bundle)

end ResourceQuota

/-- The bundles of a namespace. -/
structure BundleLayout where
  /-- The ends of the hash ranges. -/
  boundaries : List String := []
  /-- The number of bundles. -/
  count : Nat
  deriving DecidableEq, Repr

/-- The layout with these boundaries: one bundle between each two of them. -/
def BundleLayout.ofBoundaries (boundaries : List String) : BundleLayout :=
  ⟨boundaries, boundaries.length - 1⟩

/-- The layout with so many bundles and the boundaries left to the server. -/
def BundleLayout.ofCount (count : Nat) : BundleLayout := ⟨[], count⟩

/-- One bundle for all hashes. -/
def BundleLayout.single : BundleLayout := ⟨["0x00000000", "0xffffffff"], 1⟩

/-- The JSON form of a layout. -/
def BundleLayout.schema : Schema BundleLayout where
  blank := .ofCount 0
  fields := [
    .plain "boundaries" .optional (.list .string) (·.boundaries)
      fun t x => { t with boundaries := x },
    .plain "numBundles" .required .nat (·.count)
      fun t x => { t with count := x }]
  leftovers := none

end BrokerAdmin
