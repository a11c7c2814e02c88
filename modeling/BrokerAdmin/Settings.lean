import BrokerAdmin.ApiVersion
import BrokerAdmin.Duration

/-!
# Settings of a client

## Main definitions

* `Settings`: where the server is, and how to talk to it.
-/

namespace BrokerAdmin

/-- Where the server is, and how to talk to it. -/
structure Settings where
  /-- The address of the server. -/
  webServiceUrl : String := "http://localhost:8080"
  /-- The token that proves who asks. -/
  authToken : Option String := none
  /-- The file with certificates that are trusted besides the usual ones. -/
  trustedCertificates : Option String := none
  /-- Whether any certificate of a server is accepted. -/
  acceptAnyCertificate : Bool := false
  /-- Whether a certificate must name the host. It always must, unless any certificate is
  accepted. -/
  verifyHostname : Bool := true
  /-- The version for each part of the interface. -/
  profile : ApiProfile := {}
  /-- How long a request may take. -/
  timeout : Duration := ⟨30, 0⟩
  deriving DecidableEq, Repr

end BrokerAdmin
