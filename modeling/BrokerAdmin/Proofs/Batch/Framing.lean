import BrokerAdmin.Batch
import BrokerAdmin.Proofs.Wire
import Mathlib.Data.List.Basic

/-!
# The framing of batches

What the reader of records takes off a body is described here without the reader: a record is the
length of its metadata in four bytes, the metadata, and a payload of the length that the metadata
gives. A body of a batch is records one behind the other and bytes that belong to none of them.

The messages of a batch follow from its records alone, so whatever is said about a message is said
about one record and what all messages share.

## Main definitions

* `Batch.IsRecord`: the bytes of a record.

## Main results

* `Batch.readRecord_accepts`: the reader takes exactly a record.
* `Batch.readRecords_eq_ok_iff`: which records a body gives.
* `Batch.decode_eq_ok_iff`: which messages a batch gives.
-/

namespace BrokerAdmin

open Result Wire

/-- Four bytes are the digits of a number below `2 ^ 32`. -/
theorem Bytes.digits_bigEndian {bytes : Bytes} (h : bytes.length = 4) :
    bytes.bigEndian < 2 ^ 32 ∧ ofNat32 bytes.bigEndian = bytes := by
  match bytes, h with
  | [a, b, c, d], _ =>
    have ha := a.toNat_lt
    have hb := b.toNat_lt
    have hc := c.toNat_lt
    have hd := d.toNat_lt
    simp only [ofNat32, bigEndian, List.foldl_cons, List.foldl_nil, List.cons.injEq, and_true,
      ← UInt8.toNat_inj, UInt8.toNat_ofNat']
    omega

namespace Batch

/-- The bytes of a record. -/
def IsRecord (record : Record) (bytes : Bytes) : Prop :=
  ∃ head, head.length < 2 ^ 32 ∧ Metadata.ofBytes head = .ok record.metadata ∧
    record.metadata.payloadSize = record.payload.length ∧ bytes = frame head record.payload

theorem take_eq_ok_iff {n : Nat} {body front rest : Bytes} :
    take n body = .ok (front, rest) ↔ body = front ++ rest ∧ front.length = n := by
  rw [← Bytes.splitExactly_eq_some_iff, take]
  cases body.splitExactly n <;> simp

theorem take_append {n : Nat} {front : Bytes} (h : front.length = n) (rest : Bytes) :
    take n (front ++ rest) = .ok (front, rest) :=
  take_eq_ok_iff.2 ⟨rfl, h⟩

/-- **The reader takes exactly a record** off the front, whatever follows. -/
theorem readRecord_accepts : Accepts readRecord IsRecord := by
  intro body record rest
  constructor
  · intro h
    obtain ⟨⟨size, body'⟩, hsize, h⟩ := bind_eq_ok_iff.1 h
    obtain ⟨⟨head, body''⟩, hhead, h⟩ := bind_eq_ok_iff.1 h
    obtain ⟨metadata, hmetadata, h⟩ := bind_eq_ok_iff.1 h
    obtain ⟨⟨payload, rest'⟩, hpayload, h⟩ := bind_eq_ok_iff.1 h
    obtain ⟨rfl, rfl⟩ := Prod.mk.inj (Except.ok.inj h)
    obtain ⟨rfl, hfour⟩ := take_eq_ok_iff.1 hsize
    obtain ⟨rfl, hlen⟩ := take_eq_ok_iff.1 hhead
    obtain ⟨rfl, hfits⟩ := take_eq_ok_iff.1 hpayload
    obtain ⟨hlt, hdigits⟩ := Bytes.digits_bigEndian hfour
    rw [← hlen] at hlt hdigits
    refine ⟨frame head payload, ⟨head, hlt, mapError_eq_ok_iff.1 hmetadata, hfits.symm, rfl⟩, ?_⟩
    rw [frame, hdigits, List.append_assoc, List.append_assoc]
  · rintro ⟨front, ⟨head, hlen, hmetadata, hpayload, rfl⟩, rfl⟩
    rw [readRecord, frame, List.append_assoc, List.append_assoc,
      take_append (Bytes.length_ofNat32 _), ok_bind]
    simp only [Bytes.bigEndian_ofNat32 hlen, take_append, ok_bind, hmetadata, mapError_ok]
    rw [take_append hpayload.symm, ok_bind]

/-- **Which records a body gives**: as many as are asked for, as long as there are indices for them. -/
theorem readRecords_eq_ok_iff {tooMany : Error} {count index : Nat} {body : Bytes}
    {records : List Record} :
    readRecords tooMany count index body = .ok records ↔
      records.length = count ∧ (count = 0 ∨ index + count ≤ maxIndex + 1) ∧
        ∃ rest, Steps readRecord body records rest := by
  induction count generalizing index body records with
  | zero =>
    constructor
    · intro h
      obtain rfl := Except.ok.inj h
      exact ⟨rfl, .inl rfl, body, .done⟩
    · rintro ⟨hlen, -, -⟩
      obtain rfl := List.length_eq_zero_iff.1 hlen
      rfl
  | succ count ih =>
    rw [readRecords, bind_eq_ok_iff]
    constructor
    · rintro ⟨⟨record, mid⟩, hrecord, h⟩
      dsimp only at h
      split at h
      · cases h
      · next hindex =>
        obtain ⟨others, hothers, h⟩ := bind_eq_ok_iff.1 h
        obtain rfl := Except.ok.inj h
        obtain ⟨hlen, hroom, rest, hsteps⟩ := ih.1 hothers
        exact ⟨by rw [List.length_cons, hlen], by omega, rest, .step hrecord hsteps⟩
    · rintro ⟨hlen, hroom, rest, hsteps⟩
      cases hsteps with
      | done => simp at hlen
      | @step _ mid _ record others hrecord hsteps =>
        have hindex : ¬ maxIndex < index := by omega
        have hothers : readRecords tooMany count (index + 1) mid = .ok others :=
          ih.2 ⟨by simpa using hlen, by omega, rest, hsteps⟩
        refine ⟨(record, mid), hrecord, ?_⟩
        dsimp only
        rw [if_neg hindex, hothers, ok_bind]

/-! ### Messages -/

theorem length_toMessages (topic : String) (id : MessageId) (base : Dict String) (index : Nat)
    (records : List Record) : (toMessages topic id base index records).length = records.length := by
  induction records generalizing index with
  | nil => rfl
  | cons record records ih => rw [toMessages, List.length_cons, ih, List.length_cons]

/-- Each message comes from its own record. -/
theorem getElem?_toMessages (topic : String) (id : MessageId) (base : Dict String) (index : Nat)
    (records : List Record) (i : Nat) :
    (toMessages topic id base index records)[i]? =
      records[i]?.map fun record => record.toMessage topic id base (index + i) := by
  induction records generalizing index i with
  | nil => rfl
  | cons record records ih =>
    cases i with
    | zero => rfl
    | succ i =>
      have hindex : index + 1 + i = index + (i + 1) := by omega
      rw [toMessages, List.getElem?_cons_succ, ih, List.getElem?_cons_succ, hindex]

/-- **Which messages a batch gives**: those of its records, which stand one behind the other at the
start of the body. -/
theorem decode_eq_ok_iff {topic : String} {id : MessageId} {body : Bytes} {base : Dict String}
    {count : String} {messages : List Message} :
    decode topic id body base count = .ok messages ↔
      ∃ n records front rest, parseCount count = .ok n ∧ n ≤ maxIndex + 1 ∧ records.length = n ∧
        Sequence IsRecord records front ∧ body = front ++ rest ∧
        messages = toMessages topic id base 0 records := by
  rw [decode, bind_eq_ok_iff]
  constructor
  · rintro ⟨n, hn, h⟩
    obtain ⟨records, hrecords, h⟩ := bind_eq_ok_iff.1 h
    obtain ⟨hlen, hroom, rest, hsteps⟩ := readRecords_eq_ok_iff.1 hrecords
    obtain ⟨front, hfront, hbody⟩ := readRecord_accepts.steps_iff.1 hsteps
    exact ⟨n, records, front, rest, hn, by omega, hlen, hfront, hbody, (Except.ok.inj h).symm⟩
  · rintro ⟨n, records, front, rest, hn, hroom, hlen, hfront, hbody, rfl⟩
    have hsteps := readRecord_accepts.steps_iff.2 ⟨front, hfront, hbody⟩
    have hread : readRecords (.invalidBatchCount count) n 0 body = .ok records :=
      readRecords_eq_ok_iff.2 ⟨hlen, .inr (by omega), rest, hsteps⟩
    exact ⟨n, hn, bind_eq_ok_iff.2 ⟨records, hread, rfl⟩⟩

/-- A batch gives no message exactly when none is asked for. -/
theorem decode_eq_ok_nil_iff {topic : String} {id : MessageId} {body : Bytes} {base : Dict String}
    {count : String} : decode topic id body base count = .ok [] ↔ parseCount count = .ok 0 := by
  rw [decode_eq_ok_iff]
  constructor
  · rintro ⟨n, records, front, rest, hn, -, hlen, -, -, hnil⟩
    have hzero := length_toMessages topic id base 0 records
    rw [← hnil, hlen, List.length_nil] at hzero
    rw [hn, ← hzero]
  · intro hn
    exact ⟨0, [], [], body, hn, Nat.zero_le _, rfl, .nil, rfl, rfl⟩

end Batch

end BrokerAdmin
