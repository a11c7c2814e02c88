import BrokerAdmin.Error
import BrokerAdmin.Wire

/-!
# Metadata of a message in a batch

Each message of a batch comes with a metadata record of its own: its properties, its keys, the size
of its payload and some flags. Only the size is required, and a field that is missing differs from one
that is given as zero, false or empty.

## Main definitions

* `Metadata`: a metadata record.
* `Metadata.Fault`: why bytes are no record, or a record has no bytes, with the wording.
* `Metadata.encode`: the bytes of a record, fields in the order of their numbers.
-/

namespace BrokerAdmin

/-- The metadata of a message in a batch. -/
structure Metadata where
  /-- The properties in the order given, names possibly repeated. -/
  properties : List (String × String) := []
  /-- The key that chooses the partition. -/
  partitionKey : Option String := none
  /-- The length of the payload. -/
  payloadSize : Nat
  /-- Whether compaction has removed the message. -/
  compactedOut : Option Bool := none
  /-- The time that the producer gives. -/
  eventTime : Option Nat := none
  /-- Whether the partition key is Base64 of bytes. -/
  partitionKeyIsBase64 : Option Bool := none
  /-- The key that orders messages. -/
  orderingKey : Option Bytes := none
  /-- The number that the producer gives. -/
  sequenceId : Option Nat := none
  /-- Whether the payload stands for no value. -/
  nullValue : Option Bool := none
  /-- Whether the partition key stands for no key. -/
  nullPartitionKey : Option Bool := none
  deriving DecidableEq, Repr

namespace Metadata

/-- Why bytes are no metadata record. -/
inductive Fault where
  /-- The bytes cannot be read. -/
  | wire (fault : Wire.Fault)
  /-- A tag is zero. -/
  | zeroTag
  /-- A tag inside a property has the number zero. -/
  | zeroTagInProperty
  /-- A known field has another wire type. -/
  | wrongType (number wireType : Nat)
  /-- A property has no key. -/
  | missingKey
  /-- A property has no value. -/
  | missingValue
  /-- The payload size is not given. -/
  | missingPayloadSize
  /-- The payload size is negative. -/
  | negativePayloadSize (n : Int)
  deriving DecidableEq, Repr

/-- The wording of a fault. -/
def Fault.message : Fault → String
  | .wire fault => fault.message
  | .zeroTag => "invalid field tag 0"
  | .zeroTagInProperty => "invalid field tag 0 in KeyValue"
  | .wrongType number wireType =>
    "field " ++ toString number ++ " has unexpected wire type " ++ toString wireType
  | .missingKey => "KeyValue is missing required field key"
  | .missingValue => "KeyValue is missing required field value"
  | .missingPayloadSize => "required field payload_size is missing"
  | .negativePayloadSize n => "negative payload_size " ++ toString n

/-! ### Writing -/

open Wire

/-- The value `0` or `1` of a truth value. -/
def putBool (b : Bool) : Bytes := putVarint b.toNat

/-- The nested record of a property: its key and its value as fields. -/
def keyValueBytes (property : String × String) : Bytes :=
  putTag 1 2 ++ putBlock (Utf8.encode property.1) ++
    (putTag 2 2 ++ putBlock (Utf8.encode property.2))

/-- A property as a field. -/
def putProperty (property : String × String) : Bytes :=
  putTag 1 2 ++ putBlock (keyValueBytes property)

/-- A field that may be missing. -/
def putOption {α : Type} (number wireType : Nat) (put : α → Bytes) : Option α → Bytes
  | some x => putTag number wireType ++ put x
  | none => []

/-- The greatest payload size that a record can give. -/
def maxPayloadSize : Nat := 0x7FFFFFFF

/-- The bytes of a record, unless its payload size is too large. -/
def encode (m : Metadata) : Except ValueError Bytes :=
  if m.payloadSize ≤ maxPayloadSize then
    .ok (m.properties.flatMap putProperty ++
      (putOption 2 2 (putBlock ∘ Utf8.encode) m.partitionKey ++
      (putTag 3 0 ++ putVarint m.payloadSize ++
      (putOption 4 0 putBool m.compactedOut ++
      (putOption 5 0 putVarint m.eventTime ++
      (putOption 6 0 putBool m.partitionKeyIsBase64 ++
      (putOption 7 2 putBlock m.orderingKey ++
      (putOption 8 0 putVarint m.sequenceId ++
      (putOption 9 0 putBool m.nullValue ++
      putOption 10 0 putBool m.nullPartitionKey)))))))))
  else
    .error (.metadataEncode ("payload_size " ++ toString m.payloadSize ++ " does not fit in int32"))

end Metadata

end BrokerAdmin
