import BrokerAdmin.Proofs.Batch.Framing
import BrokerAdmin.Proofs.Dict
import BrokerAdmin.Proofs.IntegerText

/-!
# Every byte of a batch

A body that is accepted may come from anyone. Its metadata need not be what the encoder writes, a
payload may be empty, and a length may only just fit. All the same every byte has its place: the
body is cut into parts, one for each message, and what follows the last part. A part has its own
length, its own metadata and its own payload, and its message is made of it and of what all messages
share.

A cut says more than that records stand one behind the other, as `Batch.IsRecord` does: it also
shows the bytes of the metadata, which the metadata alone does not determine.

## Main definitions

* `Batch.Part`: a stretch of a body that gives one message.
* `Batch.Part.WellFormed`: its metadata is that of its bytes, and gives the length of its payload.
* `Batch.IsCount`: the texts that denote a count.

## Main results

* `Batch.parseCount_eq_ok_iff`: which count a text denotes.
* `Batch.sequence_isRecord_iff`: records one behind the other, cut into parts.
* `Batch.decode_eq_ok_iff_parts`: what is accepted, byte for byte.
-/

namespace BrokerAdmin.Batch

open Result Wire

/-! ### Counts -/

/-- The texts that denote a count: decimal digits, behind a plus sign or not, and blanks at the two
ends. -/
def IsCount (n : Nat) (text : String) : Prop :=
  ∃ digits, IsNumeral n digits ∧
    (trimBlanks text.toList = digits ∨ trimBlanks text.toList = '+' :: digits)

/-- **Which count a text denotes**, if it has 64 bits. -/
theorem parseCount_eq_ok_iff {text : String} {n : Nat} :
    parseCount text = .ok n ↔ IsCount n text ∧ n < 2 ^ 64 := by
  rw [parseCount]
  constructor
  · intro h
    split at h
    · next m hm =>
      obtain ⟨k, hk, rfl, hlt⟩ := IntegerRange.readChars_unsigned_eq_ok_iff.1 hm
      obtain rfl := Except.ok.inj h
      exact ⟨hk, hlt⟩
    · cases h
  · rintro ⟨hcount, hlt⟩
    have hread : (IntegerRange.unsigned 64).readChars (trimBlanks text.toList) = .ok n :=
      IntegerRange.readChars_unsigned_eq_ok_iff.2 ⟨n, hcount, rfl, hlt⟩
    rw [hread]
    rfl

/-- The messages of a batch, once its count is known. -/
theorem decode_eq_map {topic : String} {id : MessageId} {body : Bytes} {base : Dict String}
    {count : String} {n : Nat} (hcount : IsCount n count) (hn : n < 2 ^ 64) :
    decode topic id body base count =
      (readRecords (.invalidBatchCount count) n 0 body).map (toMessages topic id base 0) := by
  rw [decode, parseCount_eq_ok_iff.2 ⟨hcount, hn⟩, ok_bind]
  cases readRecords (.invalidBatchCount count) n 0 body <;> rfl

/-! ### Parts -/

/-- A stretch of a body that gives one message. -/
structure Part where
  /-- The bytes of the metadata. -/
  head : Bytes
  /-- The metadata. -/
  metadata : Metadata
  /-- The payload. -/
  payload : Bytes

namespace Part

/-- The bytes of a part: the length of the metadata in four bytes, the metadata and the payload. -/
def bytes (part : Part) : Bytes := Bytes.ofNat32 part.head.length ++ part.head ++ part.payload

/-- The record of a part. -/
def record (part : Part) : Record := ⟨part.metadata, part.payload⟩

/-- A part whose bytes mean what it says. -/
structure WellFormed (part : Part) : Prop where
  /-- The length of the metadata has four bytes. -/
  short : part.head.length < 2 ^ 32
  /-- The metadata is that of its bytes. -/
  metadata : Metadata.ofBytes part.head = .ok part.metadata
  /-- The metadata gives the length of the payload. -/
  payload : part.payload.length = part.metadata.payloadSize

end Part

/-- A record is the record of a part with the same bytes. -/
theorem isRecord_iff {record : Record} {bytes : Bytes} :
    IsRecord record bytes ↔ ∃ part : Part, part.WellFormed ∧ part.record = record ∧
      part.bytes = bytes := by
  constructor
  · rintro ⟨head, hshort, hmetadata, hpayload, rfl⟩
    exact ⟨⟨head, record.metadata, record.payload⟩, ⟨hshort, hmetadata, hpayload.symm⟩, rfl, rfl⟩
  · rintro ⟨part, wellFormed, rfl, rfl⟩
    exact ⟨part.head, wellFormed.short, wellFormed.metadata, wellFormed.payload.symm, rfl⟩

/-- **Records one behind the other**, cut into parts. -/
theorem sequence_isRecord_iff {records : List Record} {bytes : Bytes} :
    Sequence IsRecord records bytes ↔ ∃ parts : List Part, (∀ part ∈ parts, part.WellFormed) ∧
      parts.map Part.record = records ∧ parts.flatMap Part.bytes = bytes := by
  constructor
  · intro h
    induction h with
    | nil => exact ⟨[], by simp, rfl, rfl⟩
    | cons hrecord _ ih =>
      obtain ⟨part, wellFormed, rfl, rfl⟩ := isRecord_iff.1 hrecord
      obtain ⟨parts, hparts, rfl, rfl⟩ := ih
      exact ⟨part :: parts, List.forall_mem_cons.2 ⟨wellFormed, hparts⟩, rfl, rfl⟩
  · rintro ⟨parts, hparts, rfl, rfl⟩
    induction parts with
    | nil => exact .nil
    | cons part parts ih =>
      obtain ⟨wellFormed, hrest⟩ := List.forall_mem_cons.1 hparts
      rw [List.map_cons, List.flatMap_cons]
      exact .cons (isRecord_iff.2 ⟨part, wellFormed, rfl, rfl⟩) (ih hrest)

/-! ### Messages -/

/-- The messages of records, one by one. -/
theorem eq_toMessages_iff {topic : String} {id : MessageId} {base : Dict String}
    {records : List Record} {messages : List Message} :
    messages = toMessages topic id base 0 records ↔
      messages.length = records.length ∧ ∀ (i : Nat) (record : Record), records[i]? = some record →
        messages[i]? = some (record.toMessage topic id base i) := by
  constructor
  · rintro rfl
    refine ⟨length_toMessages .., fun i record hrecord => ?_⟩
    rw [getElem?_toMessages, hrecord, Nat.zero_add]
    rfl
  · rintro ⟨hlen, hmessages⟩
    refine List.ext_getElem? fun i => ?_
    rw [getElem?_toMessages, Nat.zero_add]
    cases hrecord : records[i]? with
    | none =>
      rw [List.getElem?_eq_none_iff] at hrecord
      exact List.getElem?_eq_none_iff.2 (by rwa [hlen])
    | some record => exact hmessages i record hrecord

/-- **Every byte of an accepted batch has its place.** The count denotes the number of messages. The
body is cut into as many parts, one behind the other, and the bytes behind the last one. Each part
is the length of its metadata in four bytes, the metadata, and a payload of the length that the
metadata gives, and the message of the same place has this payload, this place in the batch of `id`,
and the properties that all messages share with those of the part laid over them. Conversely,
whatever can be cut in this way is accepted, as long as there are indices for the messages. -/
theorem decode_eq_ok_iff_parts {topic : String} {id : MessageId} {body : Bytes} {base : Dict String}
    {count : String} {messages : List Message} :
    decode topic id body base count = .ok messages ↔
      IsCount messages.length count ∧ messages.length ≤ 2 ^ 31 ∧
      ∃ (parts : List Part) (rest : Bytes), parts.length = messages.length ∧
        body = parts.flatMap Part.bytes ++ rest ∧
        ∀ (i : Nat) (part : Part), parts[i]? = some part → part.WellFormed ∧
          ∃ properties, messages[i]? =
              some ⟨topic, ⟨id.ledger, id.entry, id.partition, i⟩, part.payload, properties⟩ ∧
            ∀ key, properties.get? key =
              (part.metadata.properties.reverse.lookup key).or (base.get? key) := by
  simp only [← Dict.eq_overlay_iff, exists_eq_right]
  rw [decode_eq_ok_iff]
  constructor
  · rintro ⟨n, records, front, rest, hn, hroom, hlen, hfront, rfl, hmessages⟩
    obtain ⟨parts, hparts, rfl, rfl⟩ := sequence_isRecord_iff.1 hfront
    obtain ⟨hsame, hmessage⟩ := eq_toMessages_iff.1 hmessages
    obtain rfl : messages.length = n := hsame.trans hlen
    refine ⟨(parseCount_eq_ok_iff.1 hn).1, hroom, parts, rest, by simpa using hlen, rfl,
      fun i part hpart => ⟨hparts part (List.mem_of_getElem? hpart), ?_⟩⟩
    exact hmessage i part.record (by rw [List.getElem?_map, hpart]; rfl)
  · rintro ⟨hcount, hroom, parts, rest, hlen, rfl, hparts⟩
    have hwellFormed : ∀ part ∈ parts, part.WellFormed := by
      intro part hpart
      obtain ⟨i, hi⟩ := List.mem_iff_getElem?.1 hpart
      exact (hparts i part hi).1
    refine ⟨messages.length, parts.map Part.record, parts.flatMap Part.bytes, rest,
      parseCount_eq_ok_iff.2 ⟨hcount, by omega⟩, hroom, by simpa using hlen,
      sequence_isRecord_iff.2 ⟨parts, hwellFormed, rfl, rfl⟩, rfl,
      eq_toMessages_iff.2 ⟨by simpa using hlen.symm, fun i record hrecord => ?_⟩⟩
    rw [List.getElem?_map, Option.map_eq_some_iff] at hrecord
    obtain ⟨part, hpart, rfl⟩ := hrecord
    exact (hparts i part hpart).2

/-- A payload size with one byte too many, a payload of one byte, and a byte that is nobody's. -/
example :
    decode "t" (.ofPosition 3 0) [0, 0, 0, 3, 0x18, 0x81, 0x00, 0x41, 0xFF] (.ofList []) " +1 " =
      .ok [⟨"t", ⟨3, 0, -1, 0⟩, [0x41], .ofList []⟩] := by
  decide +kernel

end BrokerAdmin.Batch
