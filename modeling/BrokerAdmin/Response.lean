import BrokerAdmin.Batch

/-!
# Answers that carry messages

The server answers a request for a message with the raw entry as body and says the rest in headers:
the id, which is required; the time of publication; the number of messages, if the entry is a batch;
and one header for each property. The names of headers do not distinguish cases.

Where a header is repeated, the first one counts for the id, the time and the number, and the last
one for a property. A header of the batch marks its messages, and the properties in a record win over
all of these.

## Main definitions

* `Headers`: the headers of an answer in their order.
* `Response`: an answer read to its end.
* `Response.messages`: the messages of an answer.
-/

namespace BrokerAdmin

/-- The headers of an answer, names in lower case, in their order. -/
abbrev Headers := List (String × Bytes)

namespace Headers

/-- A text with the letters of ASCII in lower case. -/
def lower (s : String) : String := String.ofList (s.toList.map Char.toLower)

/-- Headers with names in any case. -/
def ofList (headers : List (String × Bytes)) : Headers := headers.map fun (name, v) => (lower name, v)

/-- The first value of a name. -/
def get? (headers : Headers) (name : String) : Option Bytes :=
  (headers.find? (·.1 = lower name)).map (·.2)

/-- The text of a value, if it consists of tabs and visible characters of ASCII. -/
def text? (value : Bytes) : Option String :=
  if value.all fun b => b = 0x09 || (0x20 ≤ b && b ≤ 0x7E) then
    some (String.ofList (value.map fun b => Char.ofNat b.toNat))
  else none

end Headers

/-- An answer read to its end. -/
structure Response where
  /-- The status. -/
  status : Status
  /-- The headers. -/
  headers : Headers
  /-- The body. -/
  body : Bytes
  deriving DecidableEq

namespace Response

/-- The header that holds the id of the entry. -/
def messageIdHeader : String := "X-Pulsar-Message-ID"

/-- The header that holds the time of publication. -/
def publishTimeHeader : String := "X-Pulsar-Publish-Time"

/-- The header that holds the number of messages of a batch. -/
def batchHeader : String := "X-Pulsar-Num-Batch-Message"

/-- What the name of a header of a property begins with. -/
def propertyHeader : String := "X-Pulsar-Property-"

/-- The id of the entry. -/
def messageId (headers : Headers) : Except Error MessageId :=
  match (headers.get? messageIdHeader).bind Headers.text? with
  | none => .error .missingIdentity
  | some s => (MessageId.ofText s).mapError Error.ofValue

/-- The property that the time of publication becomes, unless it is empty. -/
def publishTimeProperty (headers : Headers) : List (String × String) :=
  match headers.get? publishTimeHeader with
  | some value => if value.isEmpty then [] else [(Message.publishTimeKey, Utf8.decodeLossy value)]
  | none => []

/-- The properties that headers hold, in the order of the headers. -/
def headerProperties (headers : Headers) : List (String × String) :=
  headers.filterMap fun (name, value) =>
    (dropFront (Headers.lower propertyHeader).toList name.toList).map fun key =>
      (String.ofList key, Utf8.decodeLossy value)

/-- The properties that all messages of an answer share, apart from the mark of a batch. -/
def baseProperties (headers : Headers) : Dict String :=
  Dict.ofList (publishTimeProperty headers ++ headerProperties headers)

/-- The messages of an answer. -/
def messages (topic : String) (response : Response) : Except Error (List Message) := do
  let id ← messageId response.headers
  let base := baseProperties response.headers
  match response.headers.get? batchHeader with
  | some value =>
    let count := Utf8.decodeLossy value
    Batch.decode topic id response.body (base.insert batchHeader count) count
  | none => .ok [⟨topic, id, response.body, base⟩]

end Response

end BrokerAdmin
