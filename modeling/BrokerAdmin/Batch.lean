import BrokerAdmin.Message
import BrokerAdmin.Metadata.Decode

/-!
# Batches

An entry may pack several messages. Its body is then a sequence of records, each made of the length
of a metadata record in four bytes, the metadata record, and a payload of the size that the metadata
gives. The number of records is said elsewhere, as text; bytes behind the last record are ignored.

Decoding is all or nothing: the messages of the records before a faulty one are not handed out.

## Main definitions

* `Batch.Record`: a metadata record with its payload.
* `Batch.readRecord`, `Batch.readRecords`: records at the start of a body.
* `Batch.frame`: the bytes of a record.
* `Batch.decode`: the messages of a batch.
-/

namespace BrokerAdmin.Batch

/-- A record of a batch. -/
structure Record where
  /-- The metadata of a message. -/
  metadata : Metadata
  /-- Its payload. -/
  payload : Bytes
  deriving DecidableEq, Repr

/-- The next `n` bytes of a body. -/
def take (n : Nat) (body : Bytes) : Except Error (Bytes × Bytes) :=
  match body.splitExactly n with
  | some parts => .ok parts
  | none => .error (.truncatedBatch n body.length)

/-- The record at the start of a body and what follows it. -/
def readRecord (body : Bytes) : Except Error (Record × Bytes) := do
  let (size, body) ← take 4 body
  let (head, body) ← take size.bigEndian body
  let metadata ← (Metadata.ofBytes head).mapError Error.ofValue
  let (payload, body) ← take metadata.payloadSize body
  .ok (⟨metadata, payload⟩, body)

/-- The greatest place that a message can have in a batch. -/
def maxIndex : Nat := 0x7FFFFFFF

/-- The message of a record: its properties lie over those that all messages share. -/
def Record.toMessage (record : Record) (topic : String) (id : MessageId) (base : Dict String)
    (index : Nat) : Message :=
  ⟨topic, id.withBatch index, record.payload, base.overlay record.metadata.properties⟩

/-- The next `count` records of a body. The first one has the given index; `tooMany` is the error of
an index that does not fit. -/
def readRecords (tooMany : Error) : (count index : Nat) → Bytes → Except Error (List Record)
  | 0, _, _ => .ok []
  | count + 1, index, body => do
    let (record, body) ← readRecord body
    if maxIndex < index then .error tooMany
    else
      let records ← readRecords tooMany count (index + 1) body
      .ok (record :: records)

/-- The messages of records, which are numbered from an index on. -/
def toMessages (topic : String) (id : MessageId) (base : Dict String) :
    (index : Nat) → List Record → List Message
  | _, [] => []
  | index, record :: records =>
    record.toMessage topic id base index :: toMessages topic id base (index + 1) records

/-- The number of messages that a text denotes. Blanks around it do not count. -/
def parseCount (s : String) : Except Error Nat :=
  match (IntegerRange.unsigned 64).readChars (trimBlanks s.toList) with
  | .ok n => .ok n.toNat
  | .error _ => .error (.invalidBatchCount s)

/-- The messages of a batch. -/
def decode (topic : String) (id : MessageId) (body : Bytes) (base : Dict String) (count : String) :
    Except Error (List Message) := do
  let n ← parseCount count
  let records ← readRecords (.invalidBatchCount count) n 0 body
  .ok (toMessages topic id base 0 records)

/-- The bytes of a record with the encoded metadata `head`. -/
def frame (head payload : Bytes) : Bytes := Bytes.ofNat32 head.length ++ head ++ payload

end BrokerAdmin.Batch
