import BrokerAdmin.Proofs.Metadata.Meaning

/-!
# Metadata records read back

A record is written as fields, so what it reads back as is what its fields mean together. The writer
gives each field at most once, in the order of the numbers; the meaning of such fields is the record
they were made from, with what is missing kept apart from what is given as zero, false or empty.

In the other direction, a record that was read has parts that came out of the bytes, so it fits into
bytes again.

## Main definitions

* `Metadata.Fits`: the records whose parts have lengths and numbers that can be written.
* `Metadata.entries`: the fields of a record, as they are written.

## Main results

* `Metadata.encode_sequence`: a written record is the sequence of its fields.
* `Metadata.fits_of_decode`: what was read from bytes can be written.
* `Metadata.encode_roundTrip`: both directions together.
-/

namespace BrokerAdmin.Metadata

open Result Wire

/-- The parts of a record can be written: lengths have 32 bits, and the two numbers that a producer
gives have 64. -/
structure Fits (m : Metadata) : Prop where
  /-- The key, the value and the nested record of a property. -/
  properties : ∀ p ∈ m.properties, (Utf8.encode p.1).length < 2 ^ 32 ∧
    (Utf8.encode p.2).length < 2 ^ 32 ∧ (keyValueBytes p).length < 2 ^ 32
  /-- The key that chooses the partition. -/
  partitionKey : ∀ s, m.partitionKey = some s → (Utf8.encode s).length < 2 ^ 32
  /-- The time that the producer gives. -/
  eventTime : ∀ n, m.eventTime = some n → n < 2 ^ 64
  /-- The key that orders messages. -/
  orderingKey : ∀ content, m.orderingKey = some content → content.length < 2 ^ 32
  /-- The number that the producer gives. -/
  sequenceId : ∀ n, m.sequenceId = some n → n < 2 ^ 64

/-- A field that may be missing. -/
def ofOption {α : Type} (make : α → Entry) (o : Option α) : List Entry := (o.map make).toList

/-- The fields of a record, as they are written. -/
def entries (m : Metadata) : List Entry :=
  m.properties.map (fun p => .property p.1 p.2) ++ (ofOption .partitionKey m.partitionKey ++
    (.payloadSize m.payloadSize :: (ofOption .compactedOut m.compactedOut ++
    (ofOption .eventTime m.eventTime ++ (ofOption .partitionKeyIsBase64 m.partitionKeyIsBase64 ++
    (ofOption .orderingKey m.orderingKey ++ (ofOption .sequenceId m.sequenceId ++
    (ofOption .nullValue m.nullValue ++ ofOption .nullPartitionKey m.nullPartitionKey))))))))

/-! ### What the fields of a record mean -/

theorem filterMap_ofOption {α β : Type} (value? : Entry → Option β) (make : α → Entry)
    (o : Option α) :
    (ofOption make o).filterMap value? = (o.bind fun x => value? (make x)).toList := by
  cases o with
  | none => rfl
  | some x => cases h : value? (make x) <;> simp [ofOption, h]

theorem lastOf_ofOption {α β : Type} (value? : Entry → Option β) (make : α → Entry)
    (o : Option α) : lastOf value? (ofOption make o) = o.bind fun x => value? (make x) := by
  rw [lastOf, filterMap_ofOption]
  cases o.bind fun x => value? (make x) <;> rfl

theorem filterMap_properties {β : Type} (value? : Entry → Option β) (ps : List (String × String)) :
    (ps.map fun p => Entry.property p.1 p.2).filterMap value? =
      ps.filterMap fun p => value? (.property p.1 p.2) := by
  rw [List.filterMap_map]
  rfl

theorem lastOf_properties {β : Type} (value? : Entry → Option β) (ps : List (String × String)) :
    lastOf value? (ps.map fun p => Entry.property p.1 p.2) =
      (ps.filterMap fun p => value? (.property p.1 p.2)).getLast? := by
  rw [lastOf, filterMap_properties]

theorem getLast?_filterMap_none {α β : Type} (xs : List α) :
    (xs.filterMap fun _ => (none : Option β)).getLast? = none := by
  simp

theorem lastOf_cons {β : Type} (value? : Entry → Option β) (entry : Entry) (es : List Entry) :
    lastOf value? (entry :: es) = (lastOf value? es).or (value? entry) := by
  rw [← List.singleton_append, lastOf_append, lastOf_singleton]

/-- **The fields of a record mean the record.** -/
theorem finish_meaning_entries (m : Metadata) : finish (meaning m.entries) = .ok m := by
  have hproperties : m.entries.filterMap Entry.property? = m.properties := by
    simp only [entries, List.filterMap_append, List.filterMap_cons, filterMap_ofOption,
      filterMap_properties, Entry.property?]
    simp
  rw [finish_meaning_eq_ok_iff]
  refine ⟨m.payloadSize, ?_, Int.natCast_nonneg _, ?_⟩
  · simp only [entries, lastOf_append, lastOf_cons, lastOf_ofOption, lastOf_properties,
      Entry.payloadSize?]
    simp
  · simp only [meaning, hproperties]
    simp only [entries, lastOf_append, lastOf_cons, lastOf_ofOption, lastOf_properties,
      Entry.partitionKey?, Entry.compactedOut?, Entry.eventTime?, Entry.partitionKeyIsBase64?,
      Entry.orderingKey?, Entry.sequenceId?, Entry.nullValue?, Entry.nullPartitionKey?,
      getLast?_filterMap_none]
    simp

/-! ### Written fields -/

theorem isField_put {number wireType : Nat} {entry : Entry} {value : Bytes}
    (hnumber : 1 ≤ number ∧ number ≤ 10) (hwire : wireType < 8)
    (h : IsValue number wireType entry value) :
    IsField entry (putTag number wireType ++ value) :=
  ⟨number, wireType, _, value, isTag_putTag hwire (by omega), by omega, h, rfl⟩

theorem sequence_putOption {α : Type} {number wireType : Nat} {make : α → Entry} {put : α → Bytes}
    {o : Option α} (hnumber : 1 ≤ number ∧ number ≤ 10) (hwire : wireType < 8)
    (h : ∀ x, o = some x → IsValue number wireType (make x) (put x)) :
    Sequence IsField (ofOption make o) (putOption number wireType put o) := by
  cases o with
  | none => exact .nil
  | some x => exact .singleton (isField_put hnumber hwire (h x rfl))

theorem isBool_putBool (b : Bool) : IsBool b (putBool b) := by
  refine ⟨b.toNat, isVarint64_putVarint ?_, ?_⟩
  · cases b <;> decide
  · cases b <;> rfl

theorem isInt32_putVarint {n : Nat} (h : n ≤ maxPayloadSize) : IsInt32 n (putVarint n) := by
  have hlt : n < 2 ^ 31 := by
    rw [maxPayloadSize] at h
    omega
  have hsigned : toSigned n = n := if_pos (by omega)
  exact ⟨n, isVarint64_putVarint (by omega), hsigned, by omega, by omega⟩

theorem isProperty_put {p : String × String} (hkey : (Utf8.encode p.1).length < 2 ^ 32)
    (hvalue : (Utf8.encode p.2).length < 2 ^ 32) (h : (keyValueBytes p).length < 2 ^ 32) :
    IsProperty p.1 p.2 (putBlock (keyValueBytes p)) := by
  have hfields : Sequence IsPropertyField [.key p.1, .value p.2] (keyValueBytes p) :=
    .cons ⟨1, 2, _, _, isTag_putTag (by decide) (by decide), .key (isBlock_putBlock hkey), rfl⟩
      (.singleton ⟨2, 2, _, _, isTag_putTag (by decide) (by decide),
        .value (isBlock_putBlock hvalue), rfl⟩)
  exact ⟨_, ⟨_, hfields, rfl, rfl⟩, isBlock_putBlock h⟩

theorem sequence_properties {ps : List (String × String)}
    (h : ∀ p ∈ ps, IsProperty p.1 p.2 (putBlock (keyValueBytes p))) :
    Sequence IsField (ps.map fun p => .property p.1 p.2) (ps.flatMap putProperty) := by
  induction ps with
  | nil => exact .nil
  | cons p ps ih =>
    have hp := isField_put ⟨by decide, by decide⟩ (by decide) (.property (h p List.mem_cons_self))
    exact .cons hp (ih fun q hq => h q (List.mem_cons_of_mem p hq))

/-- **A written record is the sequence of its fields.** -/
theorem encode_sequence {m : Metadata} (fits : m.Fits) (h : m.payloadSize ≤ maxPayloadSize) :
    ∃ bytes, m.encode = .ok bytes ∧ Sequence IsField m.entries bytes := by
  refine ⟨_, if_pos h, ?_⟩
  refine .append (sequence_properties fun p hp => ?_) ?_
  · obtain ⟨hkey, hvalue, hblock⟩ := fits.properties p hp
    exact isProperty_put hkey hvalue hblock
  refine .append (sequence_putOption (by decide) (by decide) fun s hs =>
    .partitionKey (isBlock_putBlock (fits.partitionKey s hs))) ?_
  refine .cons (isField_put (by decide) (by decide) (.payloadSize (isInt32_putVarint h))) ?_
  refine .append (sequence_putOption (by decide) (by decide) fun b _ =>
    .compactedOut (isBool_putBool b)) ?_
  refine .append (sequence_putOption (by decide) (by decide) fun n hn =>
    .eventTime (isVarint64_putVarint (fits.eventTime n hn))) ?_
  refine .append (sequence_putOption (by decide) (by decide) fun b _ =>
    .partitionKeyIsBase64 (isBool_putBool b)) ?_
  refine .append (sequence_putOption (by decide) (by decide) fun content hcontent =>
    .orderingKey (isBlock_putBlock (fits.orderingKey content hcontent))) ?_
  refine .append (sequence_putOption (by decide) (by decide) fun n hn =>
    .sequenceId (isVarint64_putVarint (fits.sequenceId n hn))) ?_
  refine .append (sequence_putOption (by decide) (by decide) fun b _ =>
    .nullValue (isBool_putBool b)) ?_
  exact sequence_putOption (by decide) (by decide) fun b _ => .nullPartitionKey (isBool_putBool b)

/-- **A record reads back from its bytes.** -/
theorem ofBytes_of_encode {m : Metadata} (fits : m.Fits) (h : m.payloadSize ≤ maxPayloadSize) :
    ∃ bytes, m.encode = .ok bytes ∧ ofBytes bytes = .ok m := by
  obtain ⟨bytes, hbytes, hsequence⟩ := encode_sequence fits h
  refine ⟨bytes, hbytes, ofBytes_eq_ok_iff.2 ?_⟩
  rw [decode_of_sequence hsequence, finish_meaning_entries]

/-! ### What was read can be written

The key and the value of a property come from different fields of one block, so together they are no
longer than the block. This is what keeps the nested record of a property short enough. -/

/-- The number of bytes of a text that may be missing. -/
def textLength (o : Option String) : Nat := (o.map fun s => (Utf8.encode s).length).getD 0

theorem textLength_orElse_le (o : Option String) (s : String) :
    textLength (o.orElse fun _ => some s) ≤ textLength o + (Utf8.encode s).length := by
  cases o <;> simp [textLength]

theorem lastTexts_le {fields : List PropertyEntry} {content : Bytes}
    (h : Sequence IsPropertyField fields content) :
    textLength (lastKey fields) + textLength (lastValue fields) ≤ content.length := by
  induction h with
  | nil => exact Nat.le_refl 0
  | @cons field fields front rest hfield _ ih =>
    obtain ⟨number, wireType, tag, value, -, hvalue, rfl⟩ := hfield
    simp only [List.length_append]
    cases hvalue with
    | @key s _ htext =>
      have hlen := htext.length_le
      have hkey := textLength_orElse_le (lastKey fields) s
      simp only [lastKey, lastValue]
      omega
    | @value s _ htext =>
      have hlen := htext.length_le
      have hvalue := textLength_orElse_le (lastValue fields) s
      simp only [lastKey, lastValue]
      omega
    | unknown _ _ _ =>
      simp only [lastKey, lastValue]
      omega

theorem IsKeyValue.length_le {key value : String} {content : Bytes}
    (h : IsKeyValue key value content) :
    (Utf8.encode key).length + (Utf8.encode value).length ≤ content.length := by
  obtain ⟨fields, hfields, hkey, hvalue⟩ := h
  simpa [hkey, hvalue, textLength] using lastTexts_le hfields

/-- The parts of a field are no longer than some bytes, and its numbers have the bits they should. -/
def Entry.Within (size : Nat) : Entry → Prop
  | .property key value => (Utf8.encode key).length + (Utf8.encode value).length ≤ size
  | .partitionKey s => (Utf8.encode s).length ≤ size
  | .payloadSize n => n < 2 ^ 31
  | .orderingKey content => content.length ≤ size
  | .eventTime n | .sequenceId n => n < 2 ^ 64
  | _ => True

theorem Entry.Within.mono {size size' : Nat} {entry : Entry} (h : entry.Within size)
    (hle : size ≤ size') : entry.Within size' := by
  cases entry <;> simp only [Entry.Within] at h ⊢ <;> omega

theorem IsValue.within {number wireType : Nat} {entry : Entry} {bytes : Bytes}
    (h : IsValue number wireType entry bytes) : entry.Within bytes.length := by
  cases h with
  | property h =>
    obtain ⟨content, hcontent, hblock⟩ := h
    exact Nat.le_trans hcontent.length_le hblock.length_le
  | partitionKey h => exact h.length_le
  | payloadSize h =>
    obtain ⟨_, -, -, -, hlt⟩ := h
    exact hlt
  | eventTime h => exact h.lt
  | orderingKey h => exact h.length_le
  | sequenceId h => exact h.lt
  | _ => trivial

theorem within_of_readEntry {bytes rest : Bytes} {entry : Entry}
    (h : readEntry bytes = .ok (entry, rest)) : entry.Within bytes.length := by
  rcases readEntry_eq_ok_iff.1 h with ⟨front, ⟨_, _, tag, value, -, -, hvalue, rfl⟩, rfl⟩ |
    ⟨rfl, key, value, tag, block, rfl, -, ⟨_, size, content, -, -, hcontent, rfl⟩, rfl⟩
  · exact hvalue.within.mono (by simp only [List.length_append]; omega)
  · have hlen := hcontent.length_le
    simp only [Entry.Within, List.length_append]
    omega

theorem within_of_steps {bytes rest : Bytes} {es : List Entry}
    (h : Steps readEntry bytes es rest) : ∀ entry ∈ es, entry.Within bytes.length := by
  intro entry hentry
  obtain ⟨mid, after, hread, hle⟩ := h.exists_of_mem readEntry_consumes hentry
  exact (within_of_readEntry hread).mono hle

theorem length_keyValueBytes_le {p : String × String} (hkey : (Utf8.encode p.1).length < 2 ^ 32)
    (hvalue : (Utf8.encode p.2).length < 2 ^ 32) :
    (keyValueBytes p).length ≤ 20 + (Utf8.encode p.1).length + (Utf8.encode p.2).length := by
  have h₁ : (putTag 1 2).length ≤ 5 := (isVarint32_putVarint (by decide)).length_le
  have h₂ : (putTag 2 2).length ≤ 5 := (isVarint32_putVarint (by decide)).length_le
  have h₃ := (isVarint32_putVarint hkey).length_le
  have h₄ := (isVarint32_putVarint hvalue).length_le
  simp only [keyValueBytes, putBlock, List.length_append]
  omega

/-- **What was read can be written.** -/
theorem fits_of_decode {bytes : Bytes} {m : Metadata} (h : decode bytes = .ok m)
    (hlen : bytes.length < 2 ^ 31) : m.Fits ∧ m.payloadSize ≤ maxPayloadSize := by
  obtain ⟨es, hsteps, hfinish⟩ := decode_eq_ok_iff.1 h
  have hwithin := within_of_steps hsteps
  obtain ⟨n, hn, hpos, rfl⟩ := finish_meaning_eq_ok_iff.1 hfinish
  have hgiven : ∀ {α : Type} {value? : Entry → Option α} {x : α}, lastOf value? es = some x →
      ∃ entry, entry.Within bytes.length ∧ value? entry = some x := by
    intro α value? x hx
    obtain ⟨entry, hentry, hvalue⟩ := mem_of_lastOf hx
    exact ⟨entry, hwithin entry hentry, hvalue⟩
  refine ⟨⟨fun p hp => ?_, fun s hs => ?_, fun k hk => ?_, fun content hcontent => ?_,
    fun k hk => ?_⟩, ?_⟩
  · obtain ⟨entry, hentry, hvalue⟩ := List.mem_filterMap.1 hp
    have hw := hwithin entry hentry
    cases entry with
    | property key value =>
      obtain rfl := Option.some.inj hvalue
      simp only [Entry.Within] at hw
      have hkey : (Utf8.encode key).length < 2 ^ 32 := by omega
      have hvalue : (Utf8.encode value).length < 2 ^ 32 := by omega
      have hblock := length_keyValueBytes_le (p := (key, value)) hkey hvalue
      dsimp only at hblock
      exact ⟨hkey, hvalue, by omega⟩
    | _ => cases hvalue
  · obtain ⟨entry, hw, hvalue⟩ := hgiven hs
    cases entry <;> cases hvalue
    exact Nat.lt_of_le_of_lt hw (by omega)
  · obtain ⟨entry, hw, hvalue⟩ := hgiven hk
    cases entry <;> cases hvalue
    exact hw
  · obtain ⟨entry, hw, hvalue⟩ := hgiven hcontent
    cases entry <;> cases hvalue
    exact Nat.lt_of_le_of_lt hw (by omega)
  · obtain ⟨entry, hw, hvalue⟩ := hgiven hk
    cases entry <;> cases hvalue
    exact hw
  · obtain ⟨entry, hw, hvalue⟩ := hgiven hn
    cases entry <;> cases hvalue
    simp only [Entry.Within] at hw
    simp only [maxPayloadSize]
    omega

/-! ### Both directions -/

theorem encode_eq_error {m : Metadata} (h : maxPayloadSize < m.payloadSize) :
    ∃ reason, m.encode = .error (.metadataEncode reason) :=
  ⟨_, if_neg (Nat.not_le.2 h)⟩

/-- **Metadata records read back.** Every record that fits is written and read back as it was, unless
its payload size is too large, and then writing says so. Every record that was read from bytes can be
written, and reads back from what is written, whatever its first bytes looked like. -/
theorem encode_roundTrip :
    (∀ m : Metadata, m.Fits →
      (m.payloadSize ≤ maxPayloadSize →
        ∃ bytes, m.encode = .ok bytes ∧ ofBytes bytes = .ok m) ∧
      (maxPayloadSize < m.payloadSize →
        ∃ reason, m.encode = .error (.metadataEncode reason))) ∧
    ∀ (bytes : Bytes) (m : Metadata), bytes.length < 2 ^ 31 → ofBytes bytes = .ok m →
      ∃ bytes', m.encode = .ok bytes' ∧ ofBytes bytes' = .ok m := by
  refine ⟨fun m fits => ⟨ofBytes_of_encode fits, encode_eq_error⟩, fun bytes m hlen h => ?_⟩
  obtain ⟨fits, hsize⟩ := fits_of_decode (ofBytes_eq_ok_iff.1 h) hlen
  exact ofBytes_of_encode fits hsize

/-- A record with repeated and empty names, the greatest numbers, and parts that are given as empty,
zero or false. -/
def edgeCase : Metadata where
  properties := [("k", ""), ("k", "é")]
  partitionKey := some ""
  payloadSize := 2 ^ 31 - 1
  compactedOut := some false
  eventTime := some (2 ^ 64 - 1)
  orderingKey := some []
  sequenceId := some 0

theorem encode_roundTrip_edgeCase :
    (edgeCase.Fits ∧ ∃ bytes, edgeCase.encode = .ok bytes ∧ ofBytes bytes = .ok edgeCase) ∧
    ([0x18, 0x85, 0x00] : Bytes).length < 2 ^ 31 ∧
      ofBytes [0x18, 0x85, 0x00] = .ok { payloadSize := 5 } ∧
      ∃ bytes, encode { payloadSize := 5 } = .ok bytes ∧
        ofBytes bytes = .ok { payloadSize := 5 } := by
  have hfits : edgeCase.Fits := by
    refine ⟨by decide +kernel, ?_, ?_, ?_, ?_⟩
    all_goals simp [edgeCase]
    decide +kernel
  have hread : ofBytes [0x18, 0x85, 0x00] = .ok { payloadSize := 5 } := by decide +kernel
  exact ⟨⟨hfits, (encode_roundTrip.1 _ hfits).1 (by decide)⟩, by decide, hread,
    encode_roundTrip.2 _ _ (by decide) hread⟩

end BrokerAdmin.Metadata
