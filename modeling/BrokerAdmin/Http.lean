import BrokerAdmin.Base64
import BrokerAdmin.Certificate.Pem
import BrokerAdmin.Exchange
import BrokerAdmin.Refusal
import BrokerAdmin.Settings
import BrokerAdmin.Url.Reference

/-!
# Requests over HTTP

A client joins the endpoint of a request to the address of its server and proves who asks. Whatever
comes back is an error unless the status says that the request was carried out.

A reply may name another address instead. The client then asks there, and so on for a number of
times, and only what comes back in the end counts. So one request of a caller may be several that are
sent, and no answer to any of them but the last one is seen.

## Main definitions

* `Http.Client`, `Http.Client.ofSettings`: a client, and the one with given settings.
* `Http.Outgoing`, `Http.Client.outgoing`: a request as it is sent.
* `Http.Reply`, `Http.Reply.result`: what comes back, and what it means.
* `Http.Outgoing.onward`, `Http.Server.follow`: where a reply leads, and going there.
* `Http.Client.transport`: exchanges with a server.
-/

namespace BrokerAdmin.Http

/-! ### Requests -/

/-- A request as it is sent. -/
structure Outgoing where
  /-- The method. -/
  method : Method
  /-- The full address. -/
  url : Url
  /-- The values that prove who asks. -/
  authorization : List Bytes
  /-- The content. -/
  content : Content
  /-- The address whose reply has led to this one. -/
  referer : Option String := none

namespace Outgoing

/-- Path and query. -/
def target (out : Outgoing) : String := out.url.target

/-- The type of the content. -/
def contentType (out : Outgoing) : Option String :=
  match out.content with
  | .nothing => none
  | .json _ => some Form.jsonType
  | .form _ => some "multipart/form-data"

/-- The body, unless it is a form. -/
def body (out : Outgoing) : Bytes :=
  match out.content with
  | .json value => Utf8.encode value.compact
  | _ => []

end Outgoing

/-- A character of the name of a file between quotes. -/
def quoteFileChar (c : Char) : List Char :=
  if c = '\\' || c = '"' || c = '\r' || c = '\n' then ['\\', c] else [c]

/-- The line that introduces a part of a form. A name that needs an encoding says that it has one. -/
def disposition (part : Part) : String :=
  let encoded := Percent.encode (Percent.segmentSet false) part.name.toList
  let name :=
    if encoded = part.name.toList then "name=\"".toList ++ encoded ++ ['"']
    else "name*=utf-8''".toList ++ encoded
  let file := match part.fileName with
    | some fileName => "; filename=\"".toList ++ fileName.toList.flatMap quoteFileChar ++ ['"']
    | none => []
  String.ofList ("form-data; ".toList ++ name ++ file)

/-! ### Headers -/

/-- Whether a byte may stand in the value of a header. -/
def isHeaderByte (b : UInt8) : Bool := b = 0x09 || (0x20 ≤ b && b != 0x7F)

/-- Whether a byte is a space or a tab. -/
def isHeaderBlank (b : UInt8) : Bool := b = 0x20 || b = 0x09

/-- The value of a header as it arrives: blanks around it do not belong to it. -/
def arriving (value : Bytes) : Bytes :=
  ((value.dropWhile isHeaderBlank).reverse.dropWhile isHeaderBlank).reverse

/-! ### Clients -/

/-- A client of a server. -/
structure Client where
  /-- The address of the server. -/
  base : Url
  /-- The token that proves who asks. -/
  token : Option String := none
  /-- The certificates that are trusted besides the usual ones. -/
  certificates : List Bytes := []
  /-- Whether any certificate of a server is accepted. -/
  acceptAnyCertificate : Bool := false
  /-- How long a request may take. -/
  timeout : Duration := ⟨30, 0⟩

namespace Client

/-- The address that a text denotes. -/
def parseBase (url : String) : Except Error Url :=
  (Url.parse url).mapError fun fault =>
    .invalidConfig ("invalid web service URL '" ++ url ++ "': " ++ fault.message)

/-- The certificates in a file, if one is given. -/
def readCertificates : Option String → Exchange Error (List Bytes)
  | none => return []
  | some path => do
    let text ← Exchange.file path
    match Pem.certificates text with
    | some certificates => return certificates
    | none => .fail .request

/-- The client with given settings. -/
def ofSettings (settings : Settings) : Exchange Error Client := do
  let base ← Exchange.ofExcept (parseBase settings.webServiceUrl)
  let certificates ← readCertificates settings.trustedCertificates
  return {
    base
    token := settings.authToken
    certificates
    acceptAnyCertificate := settings.acceptAnyCertificate
    timeout := settings.timeout }

/-- The longest address that can be sent, in bytes. -/
def maxUrlLength : Nat := 65534

/-- Whether a request can be sent to an address. -/
def isReachable (url : Url) : Bool :=
  (url.scheme = "http" || url.scheme = "https") && url.toText.utf8ByteSize ≤ maxUrlLength

/-- The text that a part of the credentials in an address stands for. -/
def credential (s : String) : Option String := Utf8.decode (Percent.decode s.toList)

/-- The user name and the password in an address, if it has them and they are texts. -/
def credentials (url : Url) : Option (String × Option String) :=
  match url.authority with
  | none => none
  | some authority =>
    match credential authority.username, authority.password.bind credential with
    | some user, password => if user.isEmpty && password.isNone then none else some (user, password)
    | none, _ => none

/-- The header that holds a user name and a password. -/
def basicAuthorization (user : String) (password : Option String) : Bytes :=
  Utf8.encode ("Basic " ++ Base64.encode (Utf8.encode (user ++ ":" ++ password.getD "")))

/-- An address without the credentials in it. -/
def withoutCredentials (url : Url) : Url :=
  { url with authority := url.authority.map fun a => { a with username := "", password := none } }

/-- The address to send to, with the header that takes the place of the credentials in it. What
cannot be read as credentials stays in the address. -/
def takeCredentials (url : Url) : List Bytes × Url :=
  match credentials url with
  | some (user, password) => ([basicAuthorization user password], withoutCredentials url)
  | none => ([], url)

/-- The header that holds a token, if a header can hold it. -/
def bearerAuthorization : Option String → Option (List Bytes)
  | none => some []
  | some token =>
    let value := Utf8.encode ("Bearer " ++ token)
    if value.all isHeaderByte then some [value] else none

/-- A request as it is sent. -/
def outgoing (client : Client) (request : Request) : Except Error Outgoing := do
  let (basic, url) := takeCredentials (← request.endpoint.url client.base)
  match bearerAuthorization client.token with
  | some bearer =>
    if isReachable url then
      .ok {
        method := request.method
        url
        authorization := (basic ++ bearer).map arriving
        content := request.content }
    else .error .request
  | none => .error .request

end Client

/-! ### Replies -/

/-- What comes back. -/
inductive Reply where
  /-- Nothing that can be read as an answer. -/
  | silence
  /-- An answer whose body breaks off. -/
  | brokenOff (status : Status) (headers : Headers)
  /-- An answer. -/
  | complete (response : Response)
  deriving DecidableEq

/-- Whether answers of a status carry no body. -/
def isBodiless (status : Status) : Bool := status = 101 || status = 204 || status = 304

/-- Whether a status only says that an answer will follow. -/
def isProvisional (status : Status) : Bool := status < 200 && status != 101

/-- What a reply means: only the statuses of success are answers to the question. -/
def Reply.result : Reply → Except Error Response
  | .silence => .error .request
  | .brokenOff .. => .error .transportRead
  | .complete response =>
    if response.status.isSuccess then .ok response
    else .error (.http response.status (Refusal.reason response.status response.body))

/-- The status and the headers, which come in front of the body. -/
def Reply.head : Reply → Option (Status × Headers)
  | .silence => none
  | .brokenOff status headers => some (status, headers)
  | .complete response => some (response.status, response.headers)

/-! ### Where replies lead -/

/-- The host and the port that an address leads to. -/
def placeOf (url : Url) : Option (String × Option Nat) :=
  url.authority.map fun a => (a.host, a.port <|> Url.defaultPort url.scheme)

namespace Outgoing

/-- What a status asks for in place of a request, at another address: the same again, or only to be
shown what is there. A form is not sent again. -/
def instead (out : Outgoing) (status : Status) : Option Outgoing :=
  if status = 303 || ((status = 301 || status = 302) && out.method = .post) then
    some { out with method := .get, content := .nothing }
  else if status = 301 || status = 302 || status = 307 || status = 308 then
    match out.content with
    | .form _ => none
    | _ => some out
  else none

/-- The address that headers name, seen from that of a request. -/
def location (out : Outgoing) (headers : Headers) : Option Url := do
  let text ← Utf8.decode (← headers.get? "location")
  let url ← (out.url.resolve text).toOption
  if url.toText.utf8ByteSize ≤ Client.maxUrlLength then some url else none

/-- How a request names its own address to the next one. An encrypted one is not named on a
connection that is not encrypted. -/
def refererFor (out : Outgoing) (next : Url) : Option String :=
  if next.scheme = "http" && out.url.scheme = "https" then none
  else some { Client.withoutCredentials out.url with fragment := none }.toText

/-- The request that a reply leads on to, if it leads anywhere, or why it cannot be sent. What proves
who asks is not shown at another place. -/
def onward (out : Outgoing) (reply : Reply) : Option (Except Error Outgoing) := do
  let (status, headers) ← reply.head
  let next ← out.instead status
  let url ← out.location headers
  some (
    if Client.isReachable url then
      .ok { next with
        url
        authorization := if placeOf url = placeOf out.url then out.authorization else []
        referer := out.refererFor url }
    else .error .request)

end Outgoing

/-! ### Servers -/

/-- What a server replies to a request, after those that it had before. -/
abbrev Server := List Outgoing → Outgoing → Reply

namespace Server

/-- How often a reply is gone after for one request of a caller. -/
def maxHops : Nat := 10

/-- A request, and all that the replies lead on to: what is sent, and what comes of it in the end. A
reply that leads on where no more hops are left is an error. -/
def follow (server : Server) :
    (hops : Nat) → (before : List Outgoing) → Outgoing → List Outgoing × Except Error Response
  | hops, before, out =>
    match out.onward (server before out) with
    | none => ([out], (server before out).result)
    | some (.error error) => ([out], .error error)
    | some (.ok next) =>
      match hops with
      | 0 => ([out], .error .request)
      | hops + 1 =>
        let (sent, result) := server.follow hops (before ++ [out]) next
        (out :: sent, result)

/-- All that is sent for the requests of a caller. -/
def sent (server : Server) (asked : List Outgoing) : List Outgoing :=
  asked.foldl (fun before out => before ++ (server.follow maxHops before out).1) []

end Server

/-- Exchanges of a client with a server. -/
def Client.transport (client : Client) (server : Server) : Transport Outgoing where
  outgoing := client.outgoing
  answer asked out := (server.follow Server.maxHops (server.sent asked) out).2

end BrokerAdmin.Http
