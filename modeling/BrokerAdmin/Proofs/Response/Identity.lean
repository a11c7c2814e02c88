import BrokerAdmin.Proofs.MessageId
import BrokerAdmin.Proofs.Response
import Mathlib.Data.List.Nodup

/-!
# The ids of the messages of an answer

An answer names one entry, in the first header that holds an id. Without a number of messages it
carries one message, which has this id as it stands. In a batch the messages are numbered from zero,
and the number takes the place that the id in the header gave, if it gave one.

The ids are known from the number of messages and the id in the header alone, and that they differ
and are in range follows from this one equation.

## Main results

* `Batch.map_id_toMessages`: the ids of the messages of a batch.
* `Response.messages_ids`: the ids of the messages of an answer.
-/

namespace BrokerAdmin

open Result

namespace MessageId

theorem withBatch_injective (id : MessageId) {i j : Int} (h : id.withBatch i = id.withBatch j) :
    i = j := congrArg batch h

theorem valid_withBatch {id : MessageId} (valid : id.Valid) {i : Nat} (h : i ≤ Batch.maxIndex) :
    (id.withBatch i).Valid where
  ledger := valid.ledger
  entry := valid.entry
  partition := valid.partition
  batch := by
    have hmax : Batch.maxIndex = 0x7FFFFFFF := rfl
    change -1 ≤ (i : Int) ∧ (i : Int) ≤ 0x7FFFFFFF
    omega

end MessageId

namespace Batch

/-- **The messages of a batch are numbered** one by one. -/
theorem map_id_toMessages (topic : String) (id : MessageId) (base : Dict String) (index : Nat)
    (records : List Record) : (toMessages topic id base index records).map Message.id =
      (List.range' index records.length).map fun i : Nat => id.withBatch i := by
  induction records generalizing index with
  | nil => rfl
  | cons record records ih =>
    rw [toMessages, List.map_cons, ih, List.length_cons, List.range'_succ, List.map_cons]
    rfl

theorem nodup_ids_of_decode {topic : String} {id : MessageId} {body : Bytes} {base : Dict String}
    {count : String} {found : List Message} (h : decode topic id body base count = .ok found) :
    (found.map Message.id).Nodup := by
  obtain ⟨n, records, front, rest, -, -, -, -, -, rfl⟩ := decode_eq_ok_iff.1 h
  rw [map_id_toMessages]
  exact List.Nodup.map (fun i j hij => Int.ofNat_inj.1 (MessageId.withBatch_injective id hij))
    List.nodup_range'

theorem id_of_decode {topic : String} {id : MessageId} {body : Bytes} {base : Dict String}
    {count : String} {found : List Message} (h : decode topic id body base count = .ok found)
    {i : Nat} {message : Message} (hmessage : found[i]? = some message) :
    i ≤ maxIndex ∧ message.id = id.withBatch i := by
  obtain ⟨n, records, front, rest, -, hn, hlength, -, -, rfl⟩ := decode_eq_ok_iff.1 h
  rw [getElem?_toMessages, Option.map_eq_some_iff] at hmessage
  obtain ⟨record, hrecord, rfl⟩ := hmessage
  have hi := (List.getElem?_eq_some_iff.1 hrecord).1
  refine ⟨by omega, ?_⟩
  rw [Nat.zero_add]
  rfl

end Batch

namespace Response

open Headers

theorem messageId_eq_ok_iff {headers : List (String × Bytes)} {id : MessageId} :
    messageId (.ofList headers) = .ok id ↔ ∃ value others text,
      values headers (lower messageIdHeader) = value :: others ∧ text? value = some text ∧
        MessageId.parse text = .ok id := by
  rw [messageId, get?_ofList]
  cases hvalues : values headers (lower messageIdHeader) with
  | nil => simp
  | cons value others =>
    simp only [List.head?_cons, Option.bind_some]
    cases htext : text? value with
    | none => simp [htext]
    | some text =>
      simp [htext, mapError_eq_ok_iff, MessageId.ofText_eq_ok_iff]

/-- **The ids of the messages of an answer.** Every message has the ledger, the entry and the partition
of the first header that holds an id. Without a number of messages the one message has the whole id;
in a batch the message in place `i` has this place, whatever the header said. So no two ids are the
same, and all of them are valid. -/
theorem messages_ids {topic : String} {status : Status} {headers : List (String × Bytes)}
    {body : Bytes} {found : List Message}
    (h : messages topic ⟨status, .ofList headers, body⟩ = .ok found) :
    ∃ value others text id, values headers (lower messageIdHeader) = value :: others ∧
      text? value = some text ∧ MessageId.parse text = .ok id ∧
      (∀ message ∈ found, message.id.ledger = id.ledger ∧ message.id.entry = id.entry ∧
        message.id.partition = id.partition) ∧
      (values headers (lower batchHeader) = [] → found.map Message.id = [id]) ∧
      (values headers (lower batchHeader) ≠ [] →
        ∀ (i : Nat) message, found[i]? = some message → message.id.batch = i) ∧
      (found.map Message.id).Nodup ∧ ∀ message ∈ found, message.id.Valid := by
  by_cases hbatch : values headers (lower batchHeader) = []
  · rw [messages_of_values_nil hbatch, map_eq_ok_iff] at h
    obtain ⟨id, hid, rfl⟩ := h
    obtain ⟨value, others, text, hvalue, htext, hparse⟩ := messageId_eq_ok_iff.1 hid
    refine ⟨value, others, text, id, hvalue, htext, hparse, ?_, fun _ => rfl,
      fun hne => absurd hbatch hne, List.nodup_singleton _, ?_⟩
    · exact List.forall_mem_singleton.2 ⟨rfl, rfl, rfl⟩
    · exact List.forall_mem_singleton.2 (MessageId.valid_of_parse hparse)
  · obtain ⟨count, counts, hcount⟩ := List.exists_cons_of_ne_nil hbatch
    rw [messages_of_values_cons hcount, bind_eq_ok_iff] at h
    obtain ⟨id, hid, h⟩ := h
    obtain ⟨value, others, text, hvalue, htext, hparse⟩ := messageId_eq_ok_iff.1 hid
    have hmem : ∀ message ∈ found, ∃ i : Nat, i ≤ Batch.maxIndex ∧ message.id = id.withBatch i := by
      intro message hmessage
      obtain ⟨i, hi⟩ := List.mem_iff_getElem?.1 hmessage
      exact ⟨i, Batch.id_of_decode h hi⟩
    refine ⟨value, others, text, id, hvalue, htext, hparse, fun message hmessage => ?_,
      fun hnil => absurd hnil hbatch, fun _ i message hmessage => ?_, Batch.nodup_ids_of_decode h,
      fun message hmessage => ?_⟩
    · obtain ⟨i, -, hi⟩ := hmem message hmessage
      rw [hi]
      exact ⟨rfl, rfl, rfl⟩
    · rw [(Batch.id_of_decode h hmessage).2]
      rfl
    · obtain ⟨i, hmax, hi⟩ := hmem message hmessage
      rw [hi]
      exact MessageId.valid_withBatch (MessageId.valid_of_parse hparse) hmax

/-- Two headers with an id, of which the first gives a place in a batch, and two messages. -/
theorem messages_ids_renumbered :
    ∃ first second,
      messages "t" ⟨200, .ofList [("x-pulsar-message-id", Utf8.encode "7:8:2:5"),
        ("X-Pulsar-Num-Batch-Message", Utf8.encode "2"),
        ("X-Pulsar-Message-ID", Utf8.encode "1:1")], mixedBody⟩ = .ok [first, second] ∧
      first.id = ⟨7, 8, 2, 0⟩ ∧ second.id = ⟨7, 8, 2, 1⟩ ∧ [first.id, second.id].Nodup := by
  have hread : messages "t" ⟨200, .ofList [("x-pulsar-message-id", Utf8.encode "7:8:2:5"),
      ("X-Pulsar-Num-Batch-Message", Utf8.encode "2"),
      ("X-Pulsar-Message-ID", Utf8.encode "1:1")], mixedBody⟩ = .ok [
        ⟨"t", ⟨7, 8, 2, 0⟩, [], .ofList [("k", "a"), (batchHeader, "2")]⟩,
        ⟨"t", ⟨7, 8, 2, 1⟩, [0xFF], .ofList [(batchHeader, "2")]⟩] := by decide +kernel
  obtain ⟨value, others, text, id, -, -, -, -, -, -, hnodup, -⟩ := messages_ids hread
  exact ⟨_, _, hread, rfl, rfl, hnodup⟩

end Response

end BrokerAdmin
