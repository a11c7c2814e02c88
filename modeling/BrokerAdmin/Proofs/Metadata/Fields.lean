import BrokerAdmin.Proofs.Metadata.Meaning

/-!
# Fields in any order

Other producers write records in their own way: fields come in any order and more than once, newer
ones have numbers that are not known here, and a varint may have more bytes than it needs. None of
this matters. Whole fields one behind the other denote a record as soon as they give a payload size,
and each part of the record is what its fields say, in whatever order the fields of other parts
stand between them.

The same holds inside the block of a property, where the last key and the last value count.

## Main definitions

* `Metadata.Entry.isKnown`: whether a field has an effect.
* `Metadata.PropertyEntry.key?`, `Metadata.PropertyEntry.value?`: what a field inside a property
  gives.

## Main results

* `Metadata.meaning_filter_isKnown`: unknown fields mean nothing.
* `Metadata.isKeyValue_iff`: the block of a property, by the last key and the last value in it.
* `Metadata.ofBytes_of_fields`: the record that whole fields denote.
-/

namespace BrokerAdmin.Metadata

open Wire

/-! ### Inside a property -/

/-- The key that a field of a property gives. -/
def PropertyEntry.key? : PropertyEntry → Option String
  | .key s => some s
  | _ => none

/-- The value that a field of a property gives. -/
def PropertyEntry.value? : PropertyEntry → Option String
  | .value s => some s
  | _ => none

theorem lastKey_eq (fields : List PropertyEntry) :
    lastKey fields = (fields.filterMap PropertyEntry.key?).getLast? := by
  induction fields with
  | nil => rfl
  | cons field fields ih =>
    rw [List.filterMap_cons]
    cases field with
    | key s =>
      rw [lastKey, ih, PropertyEntry.key?, List.getLast?_cons]
      cases (fields.filterMap PropertyEntry.key?).getLast? <;> rfl
    | value _ => exact ih
    | unknown => exact ih

theorem lastValue_eq (fields : List PropertyEntry) :
    lastValue fields = (fields.filterMap PropertyEntry.value?).getLast? := by
  induction fields with
  | nil => rfl
  | cons field fields ih =>
    rw [List.filterMap_cons]
    cases field with
    | value s =>
      rw [lastValue, ih, PropertyEntry.value?, List.getLast?_cons]
      cases (fields.filterMap PropertyEntry.value?).getLast? <;> rfl
    | key _ => exact ih
    | unknown => exact ih

/-- **The block of a property, by what it says**: whole fields, among which the last key and the
last value count. -/
theorem isKeyValue_iff {key value : String} {content : Bytes} :
    IsKeyValue key value content ↔ ∃ fields, Sequence IsPropertyField fields content ∧
      (fields.filterMap PropertyEntry.key?).getLast? = some key ∧
      (fields.filterMap PropertyEntry.value?).getLast? = some value := by
  simp only [IsKeyValue, lastKey_eq, lastValue_eq]

/-! ### Fields without effect -/

/-- Whether a field has an effect. -/
def Entry.isKnown : Entry → Bool
  | .unknown => false
  | _ => true

theorem filterMap_filter_isKnown {α : Type} {value? : Entry → Option α}
    (h : value? .unknown = none) (entries : List Entry) :
    (entries.filter Entry.isKnown).filterMap value? = entries.filterMap value? := by
  induction entries with
  | nil => rfl
  | cons entry entries ih =>
    cases entry with
    | unknown => rw [List.filter_cons_of_neg (by decide), ih, List.filterMap_cons_none h]
    | _ => rw [List.filter_cons_of_pos rfl, List.filterMap_cons, List.filterMap_cons, ih]

theorem lastOf_filter_isKnown {α : Type} {value? : Entry → Option α}
    (h : value? .unknown = none) (entries : List Entry) :
    lastOf value? (entries.filter Entry.isKnown) = lastOf value? entries := by
  rw [lastOf, filterMap_filter_isKnown h, lastOf]

/-- **Unknown fields mean nothing.** -/
theorem meaning_filter_isKnown (entries : List Entry) :
    meaning (entries.filter Entry.isKnown) = meaning entries := by
  simp only [meaning]
  rw [filterMap_filter_isKnown rfl]
  repeat rw [lastOf_filter_isKnown rfl]

/-! ### Records -/

/-- Bytes that do not end in a property have no field that is cut off. -/
theorem sequence_of_steps {bytes : Bytes} {entries : List Entry}
    (h : Steps readEntry bytes entries [])
    (hlast : ∀ key value, entries.getLast? ≠ some (.property key value)) :
    Sequence IsField entries bytes := by
  generalize hend : ([] : Bytes) = rest at h
  induction h with
  | done => exact hend ▸ .nil
  | @step bytes mid rest entry entries hentry hsteps ih =>
    subst hend
    rcases readEntry_eq_ok_iff.1 hentry with ⟨front, hfront, rfl⟩ | ⟨rfl, key, value, _, _, rfl, -⟩
    · refine .cons hfront (ih (fun key value heq => hlast key value ?_) rfl)
      rw [List.getLast?_cons, heq]
      rfl
    · -- A property that is cut off takes all there is, so it is the last field.
      cases hsteps with
      | done => exact absurd rfl (hlast key value)
      | step hmore _ => exact absurd (readEntry_consumes _ _ _ hmore) (Nat.not_lt_zero _)

theorem ofBytes_of_sequence {entries : List Entry} {bytes : Bytes}
    (h : Sequence IsField entries bytes) :
    ofBytes bytes =
      (finish (meaning entries)).mapError fun fault => .metadataDecode fault.message := by
  rw [ofBytes, decode_of_sequence h]
  cases finish (meaning entries) <;> rfl

/-- **Whole fields denote a record in any order.** They do exactly when a payload size is among them
and the last one is not negative. The properties of the record are all that are given, in order; any
other part is what the last of its fields says, or missing where there is none. A property is given
by whole fields of its own, of which the last key and the last value count. Fields that are not
known have no effect, on the record or on the error. -/
theorem ofBytes_of_fields {entries : List Entry} {bytes : Bytes}
    (h : Sequence IsField entries bytes) :
    (∀ m, ofBytes bytes = .ok m ↔
      ∃ size : Nat, lastOf Entry.payloadSize? entries = some (size : Int) ∧
        m = {
          properties := entries.filterMap Entry.property?
          partitionKey := lastOf Entry.partitionKey? entries
          payloadSize := size
          compactedOut := lastOf Entry.compactedOut? entries
          eventTime := lastOf Entry.eventTime? entries
          partitionKeyIsBase64 := lastOf Entry.partitionKeyIsBase64? entries
          orderingKey := lastOf Entry.orderingKey? entries
          sequenceId := lastOf Entry.sequenceId? entries
          nullValue := lastOf Entry.nullValue? entries
          nullPartitionKey := lastOf Entry.nullPartitionKey? entries }) ∧
    (∀ key value content, IsKeyValue key value content ↔
      ∃ fields, Sequence IsPropertyField fields content ∧
        (fields.filterMap PropertyEntry.key?).getLast? = some key ∧
        (fields.filterMap PropertyEntry.value?).getLast? = some value) ∧
    ∀ (entries' : List Entry) (bytes' : Bytes), Sequence IsField entries' bytes' →
      entries'.filter Entry.isKnown = entries.filter Entry.isKnown →
        ofBytes bytes' = ofBytes bytes := by
  refine ⟨fun m => ?_, fun _ _ _ => isKeyValue_iff, fun entries' bytes' h' hknown => ?_⟩
  · rw [ofBytes_eq_ok_iff, decode_of_sequence h, finish_meaning_eq_ok_iff]
    constructor
    · rintro ⟨n, hn, hpos, rfl⟩
      exact ⟨n.toNat, by rw [hn, Int.toNat_of_nonneg hpos], rfl⟩
    · rintro ⟨size, hsize, rfl⟩
      exact ⟨size, hsize, Int.natCast_nonneg size, rfl⟩
  · rw [ofBytes_of_sequence h, ofBytes_of_sequence h', ← meaning_filter_isKnown entries', hknown,
      meaning_filter_isKnown]

/-- A record as another producer may write it. -/
def foreignRecord : Bytes :=
  -- The payload size -1, which is taken back further down.
  [0x18, 0xFF, 0xFF, 0xFF, 0xFF, 0xFF, 0xFF, 0xFF, 0xFF, 0xFF, 0x01] ++
  -- A property: its tag and its length have a byte too many, the value comes first and is replaced,
  -- and there are unknown fields, one of them with the number of the key.
  [0x8A, 0x00, 0x90, 0x00] ++ [0x12, 0x01, 0x77] ++ [0x18, 0x05] ++ [0x0A, 0x01, 0x6B] ++
    [0x0D, 0x01, 0x02, 0x03, 0x04] ++ [0x12, 0x01, 0x76] ++
  -- Unknown fields of all wire types.
  [0xA0, 0x01, 0x05] ++ [0x59, 0, 0, 0, 0, 0, 0, 0, 0] ++ [0xAA, 0x01, 0x02, 0x78, 0x79] ++
    [0x5D, 0, 0, 0, 0] ++
  -- The truth value of the field for compaction twice, and the payload size 7 in three bytes.
  [0x20, 0x05] ++ [0x20, 0x80, 0x00] ++ [0x18, 0x87, 0x80, 0x00]

/-- The fields of the record that another producer has written. -/
def foreignFields : List Entry :=
  [.payloadSize (-1), .property "k" "v", .unknown, .unknown, .unknown, .unknown, .compactedOut true,
    .compactedOut false, .payloadSize 7]

theorem sequence_foreignRecord : Sequence IsField foreignFields foreignRecord := by
  have hread : readAll (.wire .unexpectedEnd) readEntry foreignRecord.length foreignRecord =
      .ok foreignFields := by
    decide +kernel
  exact sequence_of_steps ((readAll_eq_ok_iff readEntry_consumes).1 hread) (by simp [foreignFields])

theorem ofBytes_of_fields_foreign :
    Sequence IsField foreignFields foreignRecord ∧
      ofBytes foreignRecord =
        .ok { properties := [("k", "v")], payloadSize := 7, compactedOut := some false } := by
  have hfields := sequence_foreignRecord
  exact ⟨hfields, ((ofBytes_of_fields hfields).1 _).2 ⟨7, rfl, rfl⟩⟩

end BrokerAdmin.Metadata
