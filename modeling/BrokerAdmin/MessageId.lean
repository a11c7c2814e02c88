import BrokerAdmin.Blank
import BrokerAdmin.Error
import BrokerAdmin.Text

/-!
# Message ids

A message is addressed by the ledger and the entry that hold it, by the partition it was written to,
and by its place in a batch when the entry packs several messages. An index of `-1` says that there
is no partition or no batch.

The text form is `ledger:entry:partition:batch`; the last one or two fields may be left out. In JSON
the place in the batch is never given.

## Main definitions

* `MessageId`, `MessageId.latest`, `MessageId.toText`.
* `MessageId.parse`: the id that a text denotes, or why it denotes none.
* `MessageId.Valid`: the ids that have a text which reads back.
* `MessageId.codec`: the JSON form.
-/

namespace BrokerAdmin

/-- The address of a message. -/
structure MessageId where
  /-- The ledger that holds the entry. -/
  ledger : Int
  /-- The entry that holds the message. -/
  entry : Int
  /-- The partition, or `-1`. -/
  partition : Int
  /-- The place in the batch, or `-1`. -/
  batch : Int
  deriving DecidableEq, Repr

namespace MessageId

/-- The index that says that there is none. -/
def noIndex : Int := -1

/-- The id of a message outside of partitions and batches. -/
def ofPosition (ledger entry : Int) : MessageId := ⟨ledger, entry, noIndex, noIndex⟩

/-- The position behind the last message of a topic. -/
def latest : MessageId := ofPosition 0x7FFFFFFFFFFFFFFF 0x7FFFFFFFFFFFFFFF

/-- The id of another message of the same entry. -/
def withBatch (id : MessageId) (batch : Int) : MessageId := { id with batch }

/-- Whether the message is in a partition. -/
def isPartitioned (id : MessageId) : Bool := id.partition != noIndex

/-- Whether the message is in a batch. -/
def isBatched (id : MessageId) : Bool := id.batch != noIndex

/-- An id whose numbers are in range. -/
structure Valid (id : MessageId) : Prop where
  ledger : 0 ≤ id.ledger ∧ id.ledger ≤ 0x7FFFFFFFFFFFFFFF
  entry : 0 ≤ id.entry ∧ id.entry ≤ 0x7FFFFFFFFFFFFFFF
  partition : -1 ≤ id.partition ∧ id.partition ≤ 0x7FFFFFFF
  batch : -1 ≤ id.batch ∧ id.batch ≤ 0x7FFFFFFF

/-- The characters of an id. -/
def toChars (id : MessageId) : List Char :=
  intChars id.ledger ++ ':' :: intChars id.entry ++ ':' :: intChars id.partition ++
    ':' :: intChars id.batch

/-- The text of an id. -/
def toText (id : MessageId) : String := String.ofList id.toChars

/-- The fields of an id. -/
inductive Part where
  /-- The ledger. -/
  | ledger
  /-- The entry. -/
  | entry
  /-- The partition. -/
  | partition
  /-- The place in the batch. -/
  | batch
  deriving DecidableEq, Repr

/-- What a field is called in messages. -/
def Part.label : Part → String
  | .ledger => "ledger id"
  | .entry => "entry id"
  | .partition => "partition index"
  | .batch => "batch index"

/-- The numbers that a field can hold. -/
def Part.range : Part → IntegerRange
  | .ledger | .entry => .signed 64
  | .partition | .batch => .signed 32

/-- Why a text is no message id. -/
inductive Fault where
  /-- It has too few or too many fields. -/
  | fieldCount (n : Nat)
  /-- A field is no number. -/
  | field (part : Part) (text : String) (fault : IntegerFault)
  /-- The ledger or the entry is negative. -/
  | negativePosition
  /-- The partition or the place in the batch is below `-1`. -/
  | negativeIndex
  deriving DecidableEq, Repr

/-- The wording of a fault. -/
def Fault.message : Fault → String
  | .fieldCount n => "expected 2 to 4 ':'-separated fields, got " ++ toString n
  | .field part text fault => part.label ++ " '" ++ text ++ "': " ++ fault.message
  | .negativePosition => "ledger id and entry id must not be negative"
  | .negativeIndex => "partition and batch index must be -1 or non-negative"

/-- The number in a field. -/
def Part.read (part : Part) (cs : List Char) : Except Fault Int :=
  match part.range.readChars cs with
  | .ok n => .ok n
  | .error fault => .error (.field part (String.ofList cs) fault)

/-- The number in a field that may be left out. -/
def Part.readOption (part : Part) : Option (List Char) → Except Fault Int
  | some cs => part.read cs
  | none => .ok noIndex

/-- The id with these fields, which are read one after the other and checked at the end. -/
def ofFields (ledger entry : List Char) (partition batch : Option (List Char)) :
    Except Fault MessageId := do
  let ledger ← Part.ledger.read ledger
  let entry ← Part.entry.read entry
  let partition ← Part.partition.readOption partition
  let batch ← Part.batch.readOption batch
  if ledger < 0 || entry < 0 then .error .negativePosition
  else if partition < noIndex || batch < noIndex then .error .negativeIndex
  else .ok ⟨ledger, entry, partition, batch⟩

/-- The id that a text denotes. Blanks around it do not count. -/
def parse (s : String) : Except Fault MessageId :=
  match splitFields ':' (trimBlanks s.toList) with
  | [ledger, entry] => ofFields ledger entry none none
  | [ledger, entry, partition] => ofFields ledger entry (some partition) none
  | [ledger, entry, partition, batch] => ofFields ledger entry (some partition) (some batch)
  | fields => .error (.fieldCount fields.length)

/-- The id that a text denotes, with the error that names the text as it was given. -/
def ofText (s : String) : Except ValueError MessageId :=
  match parse s with
  | .ok id => .ok id
  | .error fault => .error (.malformedIdentity s fault.message)

/-- The JSON form, without the place in the batch. -/
def schema : Json.Schema MessageId where
  blank := ⟨0, 0, 0, noIndex⟩
  fields := [
    .plain "ledgerId" .required (.int (.signed 64)) ledger fun id n => { id with ledger := n },
    .plain "entryId" .required (.int (.signed 64)) entry fun id n => { id with entry := n },
    .plain "partitionIndex" .required (.int (.signed 32)) partition
      fun id n => { id with partition := n }]
  leftovers := none

/-- The JSON form, without the place in the batch. -/
def codec : Json.Codec MessageId := schema.codec

end MessageId

end BrokerAdmin
