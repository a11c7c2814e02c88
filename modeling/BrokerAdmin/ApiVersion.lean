/-!
# Versions of the admin interface

The parts of the admin interface are served under versions. The first version has no segment of its
own in a path. Brokers serve most parts under the second one, and function workers serve connectors
under the third.

## Main definitions

* `ApiVersion`: a version, with `ApiVersion.toText`.
* `ApiProfile`: the version for each part.
-/

namespace BrokerAdmin

/-- A version of the admin interface. -/
inductive ApiVersion where
  /-- The first version, which a path does not name. -/
  | v1
  /-- The second version. -/
  | v2
  /-- The third version. -/
  | v3
  deriving DecidableEq, Repr

/-- The segment that stands for a version, empty for the first one. -/
def ApiVersion.toText : ApiVersion → String
  | .v1 => ""
  | .v2 => "v2"
  | .v3 => "v3"

/-- The version under which each part of the interface is asked for. -/
structure ApiProfile where
  /-- Tenants. -/
  tenants : ApiVersion := .v2
  /-- Topics and their subscriptions. -/
  topics : ApiVersion := .v2
  /-- Sink connectors. -/
  sinks : ApiVersion := .v3
  /-- Source connectors. -/
  sources : ApiVersion := .v3
  /-- Statistics of brokers. -/
  brokerStats : ApiVersion := .v2
  /-- Resource quotas. -/
  resourceQuotas : ApiVersion := .v2
  deriving DecidableEq, Repr

end BrokerAdmin
