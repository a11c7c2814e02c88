import BrokerAdmin.Base64
import BrokerAdmin.MessageId
import BrokerAdmin.Timestamp

/-!
# Messages

A message is what an admin answer says about one message of a topic: its id, its payload and its
properties. In JSON the id stands as its text and the payload as Base64, since it may hold any bytes.

## Main definitions

* `Message`: a message.
* `Message.publishTimeText`, `Message.publishTime`: the property that says when it was published.
* `Message.toJson`: the JSON form.
-/

namespace BrokerAdmin

/-- A message read through the admin interface. -/
structure Message where
  /-- The full name of its topic. -/
  topic : String
  /-- Its address. -/
  id : MessageId
  /-- Its payload. -/
  payload : Bytes
  /-- Its properties. -/
  properties : Dict String
  deriving DecidableEq

namespace Message

/-- The property that holds the time of publication. -/
def publishTimeKey : String := "publish-time"

/-- The time of publication as the server gives it. -/
def publishTimeText (m : Message) : Option String := m.properties.get? publishTimeKey

/-- The time of publication, if the server gives it in the usual form. -/
def publishTime (m : Message) : Option Timestamp := m.publishTimeText.bind Timestamp.parse

/-- The payload as text, with U+FFFD for what is no text. -/
def payloadText (m : Message) : String := Utf8.decodeLossy m.payload

/-- The JSON form of a message. -/
def toJson (m : Message) : Json.Value :=
  .object [
    ("topic", .string m.topic),
    ("id", .string m.id.toText),
    ("payload", .string (Base64.encode m.payload)),
    ("properties", (Json.Codec.string.dict).write m.properties)]

end Message

end BrokerAdmin
