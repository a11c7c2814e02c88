import BrokerAdmin.Proofs.Batch.Framing
import BrokerAdmin.Proofs.Dict
import BrokerAdmin.Proofs.IntegerText
import BrokerAdmin.Proofs.Metadata.RoundTrip

/-!
# Batches read back

A record has two lengths in two formats: the length of its metadata stands in front, and the length
of its payload stands inside the metadata. When both are right, reading a record leaves exactly what
follows it, and reading records one after the other never looks at anything but the record at hand.

## Main definitions

* `Batch.Record.Fits`: the records whose lengths are right and can be written.
* `Batch.encode`: the body of a batch.

## Main results

* `Batch.sequence_encode`: written records stand one behind the other.
* `Batch.readRecords_encode`: records read back one after the other.
* `Batch.decode_roundTrip`: the messages of a batch.
-/

namespace BrokerAdmin.Batch

open Result Wire

/-- A record that can be written: its metadata can, gives the length of the payload, and is short
enough for its length to have four bytes. -/
structure Record.Fits (record : Record) : Prop where
  /-- The parts of the metadata. -/
  metadata : record.metadata.Fits
  /-- The length of the payload is the one that the metadata gives. -/
  payload : record.metadata.payloadSize = record.payload.length
  /-- The metadata can give this length. -/
  size : record.payload.length ≤ Metadata.maxPayloadSize
  /-- The length of the metadata. -/
  head : ∀ head, record.metadata.encode = .ok head → head.length < 2 ^ 32

/-- The body of a batch: its records, one behind the other. -/
def encode : List Record → Except ValueError Bytes
  | [] => .ok []
  | record :: records => do
    let head ← record.metadata.encode
    let rest ← encode records
    .ok (frame head record.payload ++ rest)

/-! ### Records -/

/-- A record that can be written is written as its bytes. -/
theorem isRecord_frame {record : Record} (fits : record.Fits) {head : Bytes}
    (hhead : record.metadata.encode = .ok head) : IsRecord record (frame head record.payload) := by
  have hread : Metadata.ofBytes head = .ok record.metadata := by
    obtain ⟨bytes, hbytes, hread⟩ :=
      Metadata.ofBytes_of_encode fits.metadata (fits.payload ▸ fits.size)
    rw [hhead] at hbytes
    rwa [Except.ok.inj hbytes]
  exact ⟨head, fits.head head hhead, hread, fits.payload, rfl⟩

/-- **Written records stand one behind the other.** -/
theorem sequence_encode {records : List Record} (hfits : ∀ record ∈ records, record.Fits) :
    ∃ body, encode records = .ok body ∧ Sequence IsRecord records body := by
  induction records with
  | nil => exact ⟨[], rfl, .nil⟩
  | cons record records ih =>
    obtain ⟨fits, hrest⟩ := List.forall_mem_cons.1 hfits
    obtain ⟨head, hhead, -⟩ :=
      Metadata.ofBytes_of_encode fits.metadata (fits.payload ▸ fits.size)
    obtain ⟨body, hbody, hsequence⟩ := ih hrest
    refine ⟨frame head record.payload ++ body, ?_, .cons (isRecord_frame fits hhead) hsequence⟩
    rw [encode, hhead, ok_bind, hbody, ok_bind]

/-- **Records read back one after the other**, as long as there are indices for them. -/
theorem readRecords_encode {records : List Record} (hfits : ∀ record ∈ records, record.Fits)
    (tooMany : Error) (index : Nat) (hindex : index + records.length ≤ 2 ^ 31) :
    ∃ body, encode records = .ok body ∧
      ∀ trailing, readRecords tooMany records.length index (body ++ trailing) = .ok records := by
  obtain ⟨body, hbody, hsequence⟩ := sequence_encode hfits
  have hroom : index + records.length ≤ maxIndex + 1 := by
    rw [maxIndex]
    omega
  exact ⟨body, hbody, fun trailing => readRecords_eq_ok_iff.2
    ⟨rfl, .inr hroom, trailing, readRecord_accepts.steps_iff.2 ⟨body, hsequence, rfl⟩⟩⟩

/-! ### Messages -/

/-- A count reads back from its decimal text. -/
theorem parseCount_toString {n : Nat} (h : n < 2 ^ 64) : parseCount (toString n) = .ok n := by
  have hchars : (toString n).toList = intChars n := by
    rw [Nat.toString_eq_ofList_toDigits, String.toList_ofList]
    rfl
  have htrim : trimBlanks (intChars n) = intChars n := by
    refine trimBlanks_of_not_blank fun c hc => isBlank_of_isDigit ?_
    exact isDigit_of_mem_toDigits hc
  have hhigh : (IntegerRange.unsigned 64).high = 2 ^ 64 - 1 := rfl
  have hread : (IntegerRange.unsigned 64).readChars (intChars n) = .ok (n : Int) :=
    IntegerRange.readChars_intChars (by decide) (by decide)
      ⟨Int.natCast_nonneg n, by rw [hhigh]; omega⟩
  rw [parseCount, hchars, htrim, hread]
  rfl

/-- **A batch reads back.** The messages of a batch are those of its records in their order, whatever
follows the last record. Each message depends on its own record only, and its properties are those of
the record, the last one of each name, over those that all messages share. -/
theorem decode_roundTrip {records : List Record} (hfits : ∀ record ∈ records, record.Fits)
    (hcount : records.length ≤ 2 ^ 31) (topic : String) (id : MessageId) (base : Dict String) :
    ∃ body messages, encode records = .ok body ∧
      (∀ trailing,
        decode topic id (body ++ trailing) base (toString records.length) = .ok messages) ∧
      messages.length = records.length ∧
      ∀ (i : Nat) (record : Record), records[i]? = some record →
        messages[i]? = some ⟨topic, id.withBatch i, record.payload,
          base.overlay record.metadata.properties⟩ ∧
        ∀ key, (base.overlay record.metadata.properties).get? key =
          (record.metadata.properties.reverse.lookup key).or (base.get? key) := by
  obtain ⟨body, hbody, hread⟩ := readRecords_encode hfits
    (.invalidBatchCount (toString records.length)) 0 (by omega)
  refine ⟨body, toMessages topic id base 0 records, hbody, fun trailing => ?_,
    length_toMessages topic id base 0 records, fun i record hrecord => ⟨?_, fun key => ?_⟩⟩
  · rw [decode, parseCount_toString (by omega), ok_bind, hread, ok_bind]
  · rw [getElem?_toMessages, hrecord, Nat.zero_add]
    rfl
  · exact Dict.get?_overlay base record.metadata.properties key

/-- A record that gives one name twice, and a record without anything. -/
def twoRecords : List Record :=
  [⟨{ properties := [("k", "a"), ("k", "b")], payloadSize := 2 }, [0x00, 0xFF]⟩,
    ⟨{ payloadSize := 0 }, []⟩]

theorem fits_twoRecords : ∀ record ∈ twoRecords, record.Fits := by
  have hshort : ∀ {m : Metadata} {bytes : Bytes}, m.encode = .ok bytes → bytes.length < 2 ^ 32 →
      ∀ head, m.encode = .ok head → head.length < 2 ^ 32 := by
    intro m bytes hbytes hlt head hhead
    rw [hbytes] at hhead
    rwa [← Except.ok.inj hhead]
  have hfirst : Metadata.encode { properties := [("k", "a"), ("k", "b")], payloadSize := 2 } =
      .ok [0x0A, 6, 0x0A, 1, 0x6B, 0x12, 1, 0x61, 0x0A, 6, 0x0A, 1, 0x6B, 0x12, 1, 0x62, 0x18, 2] := by
    decide +kernel
  have hsecond : Metadata.encode { payloadSize := 0 } = .ok [0x18, 0] := by decide +kernel
  simp only [twoRecords, List.forall_mem_cons]
  refine ⟨⟨⟨by decide +kernel, ?_, ?_, ?_, ?_⟩, rfl, by decide, hshort hfirst (by decide)⟩,
    ⟨⟨?_, ?_, ?_, ?_, ?_⟩, rfl, by decide, hshort hsecond (by decide)⟩, ?_⟩
  all_goals simp

/-- The first of the two records speaks for itself, the second leaves the shared property alone. -/
theorem decode_roundTrip_twoRecords :
    (∀ record ∈ twoRecords, record.Fits) ∧ twoRecords.length ≤ 2 ^ 31 ∧
    ∃ body first second, encode twoRecords = .ok body ∧
      (∀ trailing, decode "t" (.ofPosition 3 0) (body ++ trailing) (.ofList [("k", "x")]) "2" =
        .ok [first, second]) ∧
      first.id = ⟨3, 0, -1, 0⟩ ∧ first.payload = [0x00, 0xFF] ∧
      first.properties.get? "k" = some "b" ∧
      second.id = ⟨3, 0, -1, 1⟩ ∧ second.payload = [] ∧
      second.properties.get? "k" = some "x" := by
  obtain ⟨body, messages, hbody, hread, hlen, hmessages⟩ :=
    decode_roundTrip fits_twoRecords (by decide) "t" (.ofPosition 3 0) (.ofList [("k", "x")])
  obtain ⟨first, second, rfl⟩ := List.length_eq_two.1 hlen
  obtain ⟨hfirst, hkey⟩ := hmessages 0 _ rfl
  obtain ⟨hsecond, hkey'⟩ := hmessages 1 _ rfl
  obtain rfl := Option.some.inj hfirst
  obtain rfl := Option.some.inj hsecond
  refine ⟨fits_twoRecords, by decide, body, _, _, hbody, hread, rfl, rfl, ?_, rfl, rfl, ?_⟩
  · exact hkey "k"
  · exact hkey' "k"

end BrokerAdmin.Batch
