import BrokerAdmin.Exchange

/-!
# Tenants

## Main definitions

* `Tenant`: a tenant with its administrators and clusters.
* `Tenant.schema`: the JSON form, in which the name does not occur.
* `Tenant.list`, `Tenant.get`, `Tenant.create`, `Tenant.update`, `Tenant.delete`: the requests.
-/

namespace BrokerAdmin

open Json

/-- A tenant. -/
structure Tenant where
  /-- The name, which stands in the address and never in the body. -/
  name : String
  /-- The roles that may administer the tenant. -/
  adminRoles : List String := []
  /-- The clusters that the tenant may use. -/
  allowedClusters : List String := []
  deriving DecidableEq, Repr

/-- The JSON form of a tenant, without its name. -/
def Tenant.schema : Schema Tenant where
  blank := { name := "" }
  fields := [
    .plain "adminRoles" .optional (.list .string) (·.adminRoles)
      fun t x => { t with adminRoles := x },
    .plain "allowedClusters" .optional (.list .string) (·.allowedClusters)
      fun t x => { t with allowedClusters := x }]
  leftovers := none

namespace Tenant

/-- Where all tenants are. -/
def root (version : ApiVersion) : Endpoint := .ofVersion version "/tenants"

/-- Where the tenant of a name is. -/
def endpoint (version : ApiVersion) (name : String) : Endpoint := (root version).add [name]

/-- The names of all tenants. -/
def list (version : ApiVersion) : Exchange Error (List String) :=
  .get (.list .string) (root version)

/-- The tenant of a name. The answer does not repeat the name. -/
def get (version : ApiVersion) (name : String) : Exchange Error Tenant := do
  let tenant ← Exchange.get schema.codec (endpoint version name)
  return { tenant with name }

/-- Make a tenant. -/
def create (version : ApiVersion) (tenant : Tenant) : Exchange Error Unit :=
  .order .put (endpoint version tenant.name) (.ofValue schema.codec tenant)

/-- Replace the roles and clusters of a tenant. -/
def update (version : ApiVersion) (tenant : Tenant) : Exchange Error Unit :=
  .order .post (endpoint version tenant.name) (.ofValue schema.codec tenant)

/-- Remove the tenant of a name. -/
def delete (version : ApiVersion) (name : String) : Exchange Error Unit :=
  .order .delete (endpoint version name)

end Tenant

end BrokerAdmin
