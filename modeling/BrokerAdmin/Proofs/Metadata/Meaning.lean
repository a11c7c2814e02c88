import BrokerAdmin.Proofs.Metadata.Grammar
import Mathlib.Data.List.Induction

/-!
# What fields mean together

Fields are applied one after the other. The result is said here without an order of steps: the
properties are all properties in their order, and any other field has the last value that is given
for it, or none.

## Main definitions

* `Metadata.lastOf`: the last value that fields give for one of the fields of a record.
* `Metadata.meaning`: what fields mean together.

## Main results

* `Metadata.foldl_apply`: applying fields one after the other gives their meaning.
* `Metadata.decode_eq_ok_iff`: which bytes denote a record, and which one.
* `Metadata.decode_of_sequence`: bytes that are fields of the grammar.
-/

namespace BrokerAdmin.Metadata

open Result Wire

/-! ### The values that a field gives -/

namespace Entry

/-- The property that a field gives. -/
def property? : Entry → Option (String × String)
  | .property key value => some (key, value)
  | _ => none

/-- The partition key that a field gives. -/
def partitionKey? : Entry → Option String
  | .partitionKey s => some s
  | _ => none

/-- The length of the payload that a field gives. -/
def payloadSize? : Entry → Option Int
  | .payloadSize n => some n
  | _ => none

/-- What a field says about compaction. -/
def compactedOut? : Entry → Option Bool
  | .compactedOut b => some b
  | _ => none

/-- The time that a field gives. -/
def eventTime? : Entry → Option Nat
  | .eventTime n => some n
  | _ => none

/-- What a field says about the form of the partition key. -/
def partitionKeyIsBase64? : Entry → Option Bool
  | .partitionKeyIsBase64 b => some b
  | _ => none

/-- The ordering key that a field gives. -/
def orderingKey? : Entry → Option Bytes
  | .orderingKey content => some content
  | _ => none

/-- The number of the producer that a field gives. -/
def sequenceId? : Entry → Option Nat
  | .sequenceId n => some n
  | _ => none

/-- What a field says about the value. -/
def nullValue? : Entry → Option Bool
  | .nullValue b => some b
  | _ => none

/-- What a field says about the absence of a partition key. -/
def nullPartitionKey? : Entry → Option Bool
  | .nullPartitionKey b => some b
  | _ => none

end Entry

/-- The last value that fields give. -/
def lastOf {α : Type} (value? : Entry → Option α) (entries : List Entry) : Option α :=
  (entries.filterMap value?).getLast?

/-- What fields mean together. -/
def meaning (entries : List Entry) : Draft where
  record :=
    { properties := entries.filterMap Entry.property?
      partitionKey := lastOf Entry.partitionKey? entries
      payloadSize := 0
      compactedOut := lastOf Entry.compactedOut? entries
      eventTime := lastOf Entry.eventTime? entries
      partitionKeyIsBase64 := lastOf Entry.partitionKeyIsBase64? entries
      orderingKey := lastOf Entry.orderingKey? entries
      sequenceId := lastOf Entry.sequenceId? entries
      nullValue := lastOf Entry.nullValue? entries
      nullPartitionKey := lastOf Entry.nullPartitionKey? entries }
  payloadSize := lastOf Entry.payloadSize? entries

theorem lastOf_append {α : Type} (value? : Entry → Option α) (front back : List Entry) :
    lastOf value? (front ++ back) = (lastOf value? back).or (lastOf value? front) := by
  rw [lastOf, List.filterMap_append, List.getLast?_append]
  rfl

theorem lastOf_singleton {α : Type} (value? : Entry → Option α) (entry : Entry) :
    lastOf value? [entry] = value? entry := by
  cases h : value? entry <;> simp [lastOf, h]

theorem mem_of_lastOf {α : Type} {value? : Entry → Option α} {entries : List Entry} {x : α}
    (h : lastOf value? entries = some x) : ∃ entry ∈ entries, value? entry = some x :=
  List.mem_filterMap.1 (List.mem_of_getLast? h)

/-- One more field changes the meaning as it changes a draft. -/
theorem meaning_append_singleton (entries : List Entry) (entry : Entry) :
    meaning (entries ++ [entry]) = apply (meaning entries) entry := by
  simp only [meaning, lastOf_append, lastOf_singleton, List.filterMap_append]
  cases entry <;> simp [apply, Entry.property?, Entry.partitionKey?, Entry.payloadSize?,
    Entry.compactedOut?, Entry.eventTime?, Entry.partitionKeyIsBase64?, Entry.orderingKey?,
    Entry.sequenceId?, Entry.nullValue?, Entry.nullPartitionKey?]

/-- **Applying fields one after the other gives their meaning.** -/
theorem foldl_apply (entries : List Entry) : entries.foldl apply {} = meaning entries := by
  induction entries using List.reverseRecOn with
  | nil => rfl
  | append_singleton entries entry ih =>
    rw [List.foldl_append, ih, meaning_append_singleton]
    rfl

/-! ### Records -/

theorem finish_meaning_eq_ok_iff {entries : List Entry} {m : Metadata} :
    finish (meaning entries) = .ok m ↔
      ∃ n, lastOf Entry.payloadSize? entries = some n ∧ 0 ≤ n ∧
        m = { (meaning entries).record with payloadSize := n.toNat } := by
  have hsize : (meaning entries).payloadSize = lastOf Entry.payloadSize? entries := rfl
  rw [finish, hsize]
  cases lastOf Entry.payloadSize? entries with
  | none => simp
  | some n =>
    by_cases hn : n < 0
    · simp only [hn, if_true, reduceCtorEq, Option.some.injEq, false_iff, not_exists, not_and]
      rintro _ rfl hle
      omega
    · simp only [hn, if_false, Except.ok.injEq, Option.some.injEq]
      constructor
      · rintro rfl
        exact ⟨n, rfl, by omega, rfl⟩
      · rintro ⟨_, rfl, -, rfl⟩
        rfl

/-- **Bytes denote a record** if they can be read as fields to their end, and the fields give a
payload size that is not negative. -/
theorem decode_eq_ok_iff {bytes : Bytes} {m : Metadata} :
    decode bytes = .ok m ↔
      ∃ entries, Steps readEntry bytes entries [] ∧ finish (meaning entries) = .ok m := by
  rw [decode, bind_eq_ok_iff]
  simp only [readAll_eq_ok_iff readEntry_consumes, foldl_apply]

theorem steps_of_sequence {entries : List Entry} {front : Bytes}
    (h : Sequence IsField entries front) (rest : Bytes) :
    Steps readEntry (front ++ rest) entries rest := by
  induction h with
  | nil => exact .done
  | cons hx _ ih =>
    rw [List.append_assoc]
    exact .step (readEntry_complete hx _) ih

theorem decode_of_sequence {entries : List Entry} {bytes : Bytes}
    (h : Sequence IsField entries bytes) : decode bytes = finish (meaning entries) := by
  have hsteps := steps_of_sequence h []
  rw [List.append_nil] at hsteps
  rw [decode, (readAll_eq_ok_iff readEntry_consumes).2 hsteps, ok_bind, foldl_apply]

theorem ofBytes_eq_ok_iff {bytes : Bytes} {m : Metadata} :
    ofBytes bytes = .ok m ↔ decode bytes = .ok m := by
  rw [ofBytes]
  cases decode bytes <;> simp

/-- Bytes that denote no record have one kind of error. -/
theorem ofBytes_eq_error_iff {bytes : Bytes} :
    (∃ reason, ofBytes bytes = .error (.metadataDecode reason)) ↔ ∀ m, decode bytes ≠ .ok m := by
  rw [ofBytes]
  cases decode bytes <;> simp

end BrokerAdmin.Metadata
