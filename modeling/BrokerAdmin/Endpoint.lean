import BrokerAdmin.ApiVersion
import BrokerAdmin.Error
import BrokerAdmin.TopicName
import BrokerAdmin.Url.Basic

/-!
# Endpoints

An endpoint is where a request goes below the address of the server: path segments, and names and
values of a query. Segments are kept as they are meant. They are encoded only when the endpoint is
joined to an address, so a subscription called `a/b` stays one segment.

## Main definitions

* `Endpoint`: segments and query.
* `Endpoint.ofVersion`, `Endpoint.ofTopic`: the roots that requests start from.
* `Endpoint.toText`: the endpoint as it is meant.
* `Endpoint.url`: the endpoint joined to the address of a server.
-/

namespace BrokerAdmin

/-- Where a request goes below the address of the server. -/
structure Endpoint where
  /-- The segments of the path, not encoded. -/
  segments : List String
  /-- The names and values of the query, not encoded. -/
  query : List (String × String) := []
  deriving DecidableEq, Repr

namespace Endpoint

/-- The segments that stand for a version. -/
def versionSegments (version : ApiVersion) : List String :=
  if version.toText.isEmpty then [] else [version.toText]

/-- The root of a part of the interface. The name of the part may hold slashes; empty pieces of it do
not count. -/
def ofVersion (version : ApiVersion) (component : String) : Endpoint where
  segments :=
    "admin" :: versionSegments version ++
      ((splitFields '/' component.toList).filter (!·.isEmpty)).map String.ofList

/-- An endpoint with more segments behind it. -/
def add (endpoint : Endpoint) (segments : List String) : Endpoint :=
  { endpoint with segments := endpoint.segments ++ segments }

/-- An endpoint with one more name and value in its query. -/
def ask (endpoint : Endpoint) (name value : String) : Endpoint :=
  { endpoint with query := endpoint.query ++ [(name, value)] }

/-- The root of what concerns a topic. -/
def ofTopic (version : ApiVersion) (topic : TopicName) : Endpoint :=
  (ofVersion version "").add topic.pathSegments

/-- The characters of a query that is not encoded. -/
def queryChars : List (String × String) → List Char
  | [] => []
  | pair :: rest =>
    '?' :: pairChars pair ++ rest.flatMap fun pair => '&' :: pairChars pair
where
  /-- A name and a value. -/
  pairChars (pair : String × String) : List Char := pair.1.toList ++ '=' :: pair.2.toList

/-- The endpoint as it is meant, without any encoding. -/
def toText (endpoint : Endpoint) : String :=
  String.ofList (Url.segmentsText endpoint.segments ++ queryChars endpoint.query)

/-- The endpoint joined to the address of a server, which must have a path of segments. -/
def url (endpoint : Endpoint) (base : Url) : Except Error Url :=
  match base.path with
  | .rootless _ =>
    .error (.invalidConfig ("web service URL cannot be a base: " ++ base.toText))
  | .segments path =>
    let joined := Url.joinSegments base.scheme path endpoint.segments
    .ok (Url.appendQuery { base with path := .segments joined } endpoint.query)

end Endpoint

end BrokerAdmin
