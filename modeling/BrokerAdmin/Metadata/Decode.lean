import BrokerAdmin.Metadata.Basic

/-!
# Reading metadata records

A record is read as a list of fields, which are then applied one after the other: a property is added
to those before it, any other field replaces what was there, and an unknown field changes nothing. A
property is a record of its own inside a block and is read in the same way.

The block of a property may declare more bytes than there are. It then ends where the bytes end.

## Main definitions

* `Metadata.Entry`, `Metadata.readEntry`: a field of a record.
* `Metadata.readProperty`: the key and the value in the block of a property.
* `Metadata.apply`: the effect of a field.
* `Metadata.decode`: the record that bytes denote.
-/

namespace BrokerAdmin.Metadata

open Wire

/-- Go on with the result of a reader. -/
def ofWire {α : Type} : Except Wire.Fault α → Except Fault α
  | .ok x => .ok x
  | .error fault => .error (.wire fault)

/-! ### Properties -/

/-- A field inside a property. -/
inductive PropertyEntry where
  /-- The key. -/
  | key (s : String)
  /-- The value. -/
  | value (s : String)
  /-- A field that is not known. -/
  | unknown
  deriving DecidableEq, Repr

/-- The value of a field of a property, which has a number and a wire type, and what follows it. -/
def readPropertyValue (room : Room) (number wireType : Nat) (bytes : Bytes) :
    Except Fault (PropertyEntry × Bytes) :=
  match number, wireType with
  | 1, 2 => do
    let (s, rest) ← ofWire (text room bytes)
    .ok (.key s, rest)
  | 2, 2 => do
    let (s, rest) ← ofWire (text room bytes)
    .ok (.value s, rest)
  | 0, _ => .error .zeroTagInProperty
  | _, wireType => do
    let rest ← ofWire (skip room wireType bytes)
    .ok (.unknown, rest)

/-- The first field of the bytes of a property and what follows it. -/
def readPropertyEntry (room : Room) (bytes : Bytes) : Except Fault (PropertyEntry × Bytes) := do
  let (tag, rest) ← ofWire (varint32 bytes)
  readPropertyValue room (tag / 8) (tag % 8) rest

/-- The last key among the fields of a property. -/
def lastKey : List PropertyEntry → Option String
  | [] => none
  | .key s :: rest => (lastKey rest).orElse fun _ => some s
  | _ :: rest => lastKey rest

/-- The last value among the fields of a property. -/
def lastValue : List PropertyEntry → Option String
  | [] => none
  | .value s :: rest => (lastValue rest).orElse fun _ => some s
  | _ :: rest => lastValue rest

/-- The key and the value in the block of a property, and what follows the block. -/
def readProperty (bytes : Bytes) : Except Fault ((String × String) × Bytes) := do
  let (n, rest) ← ofWire (varint32 bytes)
  let content := rest.take n
  let room := some (n - content.length)
  let entries ←
    readAll (.wire .unexpectedEnd) (readPropertyEntry room) content.length content
  match lastKey entries, lastValue entries with
  | some key, some value => .ok ((key, value), rest.drop n)
  | none, _ => .error .missingKey
  | some _, none => .error .missingValue

/-! ### Records -/

/-- A field of a metadata record. -/
inductive Entry where
  /-- One more property. -/
  | property (key value : String)
  /-- The key that chooses the partition. -/
  | partitionKey (s : String)
  /-- The length of the payload. -/
  | payloadSize (n : Int)
  /-- Whether compaction has removed the message. -/
  | compactedOut (b : Bool)
  /-- The time that the producer gives. -/
  | eventTime (n : Nat)
  /-- Whether the partition key is Base64 of bytes. -/
  | partitionKeyIsBase64 (b : Bool)
  /-- The key that orders messages. -/
  | orderingKey (content : Bytes)
  /-- The number that the producer gives. -/
  | sequenceId (n : Nat)
  /-- Whether the payload stands for no value. -/
  | nullValue (b : Bool)
  /-- Whether the partition key stands for no key. -/
  | nullPartitionKey (b : Bool)
  /-- A field that is not known. -/
  | unknown
  deriving DecidableEq, Repr

/-- Read a value and make a field of it. -/
def readAs {α : Type} (make : α → Entry) (result : Except Wire.Fault (α × Bytes)) :
    Except Fault (Entry × Bytes) :=
  (ofWire result).map fun (x, rest) => (make x, rest)

/-- The value of a field, which has a number and a wire type, and what follows it. -/
def readValue (number wireType : Nat) (bytes : Bytes) : Except Fault (Entry × Bytes) :=
  match number, wireType with
  | 1, 2 => (readProperty bytes).map fun ((key, value), rest) => (.property key value, rest)
  | 2, 2 => readAs .partitionKey (text none bytes)
  | 3, 0 => readAs .payloadSize (int32 bytes)
  | 4, 0 => readAs .compactedOut (bool bytes)
  | 5, 0 => readAs .eventTime (varint64 bytes)
  | 6, 0 => readAs .partitionKeyIsBase64 (bool bytes)
  | 7, 2 => readAs .orderingKey (block none bytes)
  | 8, 0 => readAs .sequenceId (varint64 bytes)
  | 9, 0 => readAs .nullValue (bool bytes)
  | 10, 0 => readAs .nullPartitionKey (bool bytes)
  | number, wireType =>
    if 1 ≤ number ∧ number ≤ 10 then .error (.wrongType number wireType)
    else (ofWire (skip none wireType bytes)).map fun rest => (.unknown, rest)

/-- The first field of the bytes of a record and what follows it. -/
def readEntry (bytes : Bytes) : Except Fault (Entry × Bytes) := do
  let (tag, rest) ← ofWire (varint32 bytes)
  if tag = 0 then .error .zeroTag else readValue (tag / 8) (tag % 8) rest

/-- A record while it is read. -/
structure Draft where
  /-- The record so far; its payload size has no meaning. -/
  record : Metadata := { payloadSize := 0 }
  /-- The payload size, if it has been given. -/
  payloadSize : Option Int := none
  deriving DecidableEq, Repr

/-- The effect of a field. -/
def apply (d : Draft) : Entry → Draft
  | .property key value =>
    { d with record := { d.record with properties := d.record.properties ++ [(key, value)] } }
  | .partitionKey s => { d with record := { d.record with partitionKey := some s } }
  | .payloadSize n => { d with payloadSize := some n }
  | .compactedOut b => { d with record := { d.record with compactedOut := some b } }
  | .eventTime n => { d with record := { d.record with eventTime := some n } }
  | .partitionKeyIsBase64 b => { d with record := { d.record with partitionKeyIsBase64 := some b } }
  | .orderingKey content => { d with record := { d.record with orderingKey := some content } }
  | .sequenceId n => { d with record := { d.record with sequenceId := some n } }
  | .nullValue b => { d with record := { d.record with nullValue := some b } }
  | .nullPartitionKey b => { d with record := { d.record with nullPartitionKey := some b } }
  | .unknown => d

/-- The record that has been read, if its payload size is given and not negative. -/
def finish (d : Draft) : Except Fault Metadata :=
  match d.payloadSize with
  | none => .error .missingPayloadSize
  | some n =>
    if n < 0 then .error (.negativePayloadSize n)
    else .ok { d.record with payloadSize := n.toNat }

/-- The record that bytes denote, or why they denote none. -/
def decode (bytes : Bytes) : Except Fault Metadata := do
  let entries ← readAll (.wire .unexpectedEnd) readEntry bytes.length bytes
  finish (entries.foldl apply {})

/-- The record that bytes denote, with the error of a value. -/
def ofBytes (bytes : Bytes) : Except ValueError Metadata :=
  match decode bytes with
  | .ok m => .ok m
  | .error fault => .error (.metadataDecode fault.message)

end BrokerAdmin.Metadata
