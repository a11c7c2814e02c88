import BrokerAdmin.CommandLine.Grammar
import BrokerAdmin.Settings

/-!
# Options for the connection

Where the server is and how to talk to it is said by options in front of the command. The environment
stands in for most of them.

## Main definitions

* `ConnectionOptions`: the options as they are written.
* `ConnectionOptions.ofWords`: the options in words, where no command follows.
* `ConnectionOptions.settings`: the settings that they mean.
-/

namespace BrokerAdmin.CommandLine

/-- Refuse anything but a truth value. -/
def refuseUntrue (s : String) : Option UsageFault :=
  if s = "true" || s = "false" then none else some .invalidValue

/-- The options for the connection as they are written. -/
structure ConnectionOptions where
  /-- The address of the server. -/
  webServiceUrl : String
  /-- The token that proves who asks. -/
  authToken : Option String
  /-- The file with certificates that are trusted. -/
  trustedCertificates : Option String
  /-- Whether any certificate is accepted. -/
  allowInsecure : Bool
  /-- Whether a certificate need not name the host. -/
  disableHostnameVerification : Bool
  /-- How long a request may take. -/
  requestTimeout : String
  deriving DecidableEq, Repr

namespace ConnectionOptions

/-- What may be written. -/
def rules : List OptionRule := [
  { name := "web-service-url", standIn := some "PULSAR_WEB_SERVICE_URL" },
  { name := "auth-token", standIn := some "PULSAR_AUTH_TOKEN" },
  { name := "tls-trust-certs-file-path", standIn := some "PULSAR_TLS_TRUST_CERTS_FILE_PATH"
    refuses := refuseEmpty },
  { name := "tls-allow-insecure", form := .flag, standIn := some "PULSAR_TLS_ALLOW_INSECURE"
    refuses := refuseUntrue },
  { name := "tls-disable-hostname-verification", form := .flag },
  { name := "request-timeout", standIn := some "PULSAR_REQUEST_TIMEOUT" }]

/-- The options that have been written. -/
def ofMatches (m : Matches) : ConnectionOptions where
  webServiceUrl := (m.value? "web-service-url").getD "http://localhost:8080"
  authToken := m.value? "auth-token"
  trustedCertificates := m.value? "tls-trust-certs-file-path"
  allowInsecure := m.flag "tls-allow-insecure"
  disableHostnameVerification := m.flag "tls-disable-hostname-verification"
  requestTimeout := (m.value? "request-timeout").getD "30s"

/-- The options in words, where no command follows. -/
def ofWords (environment : Environment) (words : List String) :
    Except UsageFault ConnectionOptions := do
  let rules : Rules := { options := rules }
  let (m, _) ← rules.read words
  let m ← rules.complete environment m
  .ok (ofMatches m)

/-- The settings that the options mean, unless the time for a request cannot be read. -/
def settings (o : ConnectionOptions) : Except Duration.Fault Settings := do
  let timeout ← Duration.parse o.requestTimeout
  .ok {
    webServiceUrl := o.webServiceUrl
    authToken := o.authToken
    trustedCertificates := o.trustedCertificates
    acceptAnyCertificate := o.allowInsecure
    verifyHostname := !o.disableHostnameVerification
    timeout }

/-- The wording for a time that cannot be read, followed by the cause. -/
def timeoutChain (o : ConnectionOptions) (fault : Duration.Fault) : List String :=
  ["Invalid request timeout '" ++ o.requestTimeout ++ "'", fault.message]

end ConnectionOptions

end BrokerAdmin.CommandLine
