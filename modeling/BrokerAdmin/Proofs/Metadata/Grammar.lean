import BrokerAdmin.Metadata.Decode
import BrokerAdmin.Proofs.Wire

/-!
# The grammar of metadata records

A record is a sequence of fields, a property is a sequence of fields inside a block. The predicates
here say which bytes are a field and what the field says, and the readers are shown to take exactly
these.

There is one exception, and it is kept apart from the grammar: the block of the last property of the
bytes may declare more bytes than follow. The reader then takes the bytes that there are for the
whole block (`Metadata.IsCutProperty`).

## Main definitions

* `Metadata.IsPropertyField`, `Metadata.IsKeyValue`: what stands inside the block of a property.
* `Metadata.IsValue`, `Metadata.IsField`: the fields of a record.
* `Metadata.IsCutProperty`: a property whose block ends too early.

## Main results

* `Metadata.readPropertyEntry_accepts`, `Metadata.readProperty_eq_ok_iff`,
  `Metadata.readEntry_eq_ok_iff`: the readers take what the grammar says.
-/

namespace BrokerAdmin.Metadata

open Result Wire

theorem ofWire_eq_ok_iff {α : Type} {r : Except Wire.Fault α} {x : α} :
    ofWire r = .ok x ↔ r = .ok x := by
  cases r <;> simp [ofWire]

/-! ### Tags -/

/-- The bytes of a tag. -/
def IsTag (number wireType : Nat) (bytes : Bytes) : Prop :=
  wireType < 8 ∧ IsVarint32 (number * 8 + wireType) bytes

theorem IsTag.ne_nil {number wireType : Nat} {bytes : Bytes} (h : IsTag number wireType bytes) :
    bytes ≠ [] := h.2.ne_nil

theorem isTag_putTag {number wireType : Nat} (hwire : wireType < 8)
    (h : number * 8 + wireType < 2 ^ 32) : IsTag number wireType (putTag number wireType) :=
  ⟨hwire, isVarint32_putVarint h⟩

theorem IsTag.of_varint32 {tag : Nat} {bytes : Bytes} (h : IsVarint32 tag bytes) :
    IsTag (tag / 8) (tag % 8) bytes :=
  ⟨Nat.mod_lt _ (by decide), by rwa [Nat.div_add_mod']⟩

/-- A tag at the front of bytes, as the reader sees it. -/
theorem IsTag.read {number wireType : Nat} {tag : Bytes} (h : IsTag number wireType tag)
    (rest : Bytes) :
    ∃ n, varint32 (tag ++ rest) = .ok (n, rest) ∧ n / 8 = number ∧ n % 8 = wireType :=
  ⟨_, varint32_accepts.complete h.2 rest, by have := h.1; omega, by have := h.1; omega⟩

/-! ### Inside a property -/

/-- The bytes of the value of a field inside a property. -/
inductive IsPropertyValue : (number wireType : Nat) → PropertyEntry → Bytes → Prop
  /-- The key. -/
  | key {s : String} {bytes : Bytes} : IsText s bytes → IsPropertyValue 1 2 (.key s) bytes
  /-- The value. -/
  | value {s : String} {bytes : Bytes} : IsText s bytes → IsPropertyValue 2 2 (.value s) bytes
  /-- Any other field with a number. -/
  | unknown {number wireType : Nat} {bytes : Bytes} : 1 ≤ number →
      ¬ (number ≤ 2 ∧ wireType = 2) → IsSkipped wireType bytes →
      IsPropertyValue number wireType .unknown bytes

/-- The bytes of a field inside a property. -/
def IsPropertyField (entry : PropertyEntry) (bytes : Bytes) : Prop :=
  ∃ number wireType tag value, IsTag number wireType tag ∧
    IsPropertyValue number wireType entry value ∧ bytes = tag ++ value

theorem IsPropertyField.ne_nil {entry : PropertyEntry} {bytes : Bytes}
    (h : IsPropertyField entry bytes) : bytes ≠ [] := by
  obtain ⟨number, wireType, tag, value, htag, -, rfl⟩ := h
  simp [htag.ne_nil]

theorem readPropertyValue_of_unknown {room : Room} {number wireType : Nat} {bytes : Bytes}
    (hnumber : 1 ≤ number) (hother : ¬ (number ≤ 2 ∧ wireType = 2)) :
    readPropertyValue room number wireType bytes =
      (ofWire (skip room wireType bytes)).map fun rest => (.unknown, rest) := by
  unfold readPropertyValue
  split
  · omega
  · omega
  · omega
  · cases ofWire (skip room _ bytes) <;> rfl

theorem readPropertyValue_accepts (room : Room) (number wireType : Nat) :
    Accepts (readPropertyValue room number wireType) (IsPropertyValue number wireType) := by
  intro bytes entry rest
  constructor
  · intro h
    unfold readPropertyValue at h
    split at h
    · obtain ⟨⟨s, rest'⟩, hs, h⟩ := bind_eq_ok_iff.1 h
      obtain ⟨rfl, rfl⟩ := Prod.mk.inj (Except.ok.inj h)
      obtain ⟨front, hfront, rfl⟩ := (text_accepts room).sound (ofWire_eq_ok_iff.1 hs)
      exact ⟨front, .key hfront, rfl⟩
    · obtain ⟨⟨s, rest'⟩, hs, h⟩ := bind_eq_ok_iff.1 h
      obtain ⟨rfl, rfl⟩ := Prod.mk.inj (Except.ok.inj h)
      obtain ⟨front, hfront, rfl⟩ := (text_accepts room).sound (ofWire_eq_ok_iff.1 hs)
      exact ⟨front, .value hfront, rfl⟩
    · cases h
    · next hzero hkey hvalue =>
      obtain ⟨rest', hrest, h⟩ := bind_eq_ok_iff.1 h
      obtain ⟨rfl, rfl⟩ := Prod.mk.inj (Except.ok.inj h)
      obtain ⟨front, hfront, rfl⟩ := skip_eq_ok_iff.1 (ofWire_eq_ok_iff.1 hrest)
      refine ⟨front, .unknown (Nat.pos_of_ne_zero hzero) ?_ hfront, rfl⟩
      rintro ⟨hle, hwire⟩
      rcases (by omega : number = 0 ∨ number = 1 ∨ number = 2) with h0 | h1 | h2
      · exact hzero h0
      · exact hkey h1 hwire
      · exact hvalue h2 hwire
  · rintro ⟨front, hfront, rfl⟩
    cases hfront with
    | key h => simp [readPropertyValue, ofWire, (text_accepts room).complete h rest]
    | value h => simp [readPropertyValue, ofWire, (text_accepts room).complete h rest]
    | unknown hnumber hother h =>
      rw [readPropertyValue_of_unknown hnumber hother, skip_eq_ok_iff.2 ⟨front, h, rfl⟩]
      rfl

/-- **The reader inside a property takes exactly the fields of the grammar**, whatever room there
is. -/
theorem readPropertyEntry_accepts (room : Room) :
    Accepts (readPropertyEntry room) IsPropertyField := by
  intro bytes entry rest
  rw [readPropertyEntry, bind_eq_ok_iff]
  constructor
  · rintro ⟨⟨n, after⟩, hn, h⟩
    obtain ⟨tag, htag, rfl⟩ := varint32_accepts.sound (ofWire_eq_ok_iff.1 hn)
    obtain ⟨value, hvalue, rfl⟩ := (readPropertyValue_accepts room _ _).sound h
    exact ⟨tag ++ value, ⟨_, _, tag, value, .of_varint32 htag, hvalue, rfl⟩,
      by rw [List.append_assoc]⟩
  · rintro ⟨front, ⟨number, wireType, tag, value, htag, hvalue, rfl⟩, rfl⟩
    obtain ⟨n, hn, rfl, rfl⟩ := htag.read (value ++ rest)
    refine ⟨(n, value ++ rest), ?_, (readPropertyValue_accepts room _ _).complete hvalue rest⟩
    rw [ofWire_eq_ok_iff, List.append_assoc]
    exact hn

theorem readPropertyEntry_consumes (room : Room) : Consumes (readPropertyEntry room) :=
  (readPropertyEntry_accepts room).consumes fun _ _ h => h.ne_nil

/-! ### Properties -/

/-- The content of the block of a property: fields, among them a key and a value. -/
def IsKeyValue (key value : String) (content : Bytes) : Prop :=
  ∃ fields, Sequence IsPropertyField fields content ∧
    lastKey fields = some key ∧ lastValue fields = some value

/-- The bytes of a property: a block with its content. -/
def IsProperty (key value : String) (bytes : Bytes) : Prop :=
  ∃ content, IsKeyValue key value content ∧ IsBlock content bytes

/-- The bytes of a property whose block declares more bytes than there are. -/
def IsCutProperty (key value : String) (bytes : Bytes) : Prop :=
  ∃ n size content, IsVarint32 n size ∧ content.length < n ∧ IsKeyValue key value content ∧
    bytes = size ++ content

theorem readAll_readPropertyEntry_eq_ok_iff {room : Room} {content : Bytes}
    {fields : List PropertyEntry} :
    readAll (.wire .unexpectedEnd) (readPropertyEntry room) content.length content = .ok fields ↔
      Sequence IsPropertyField fields content := by
  rw [readAll_eq_ok_iff (readPropertyEntry_consumes room),
    (readPropertyEntry_accepts room).steps_iff]
  simp

/-- A property is read from as many bytes of its block as there are. -/
theorem readProperty_eq_ok_iff_take {bytes rest : Bytes} {key value : String} :
    readProperty bytes = .ok ((key, value), rest) ↔
      ∃ n size after, IsVarint32 n size ∧ bytes = size ++ after ∧
        IsKeyValue key value (after.take n) ∧ rest = after.drop n := by
  rw [readProperty, bind_eq_ok_iff]
  constructor
  · rintro ⟨⟨n, after⟩, hn, h⟩
    obtain ⟨size, hsize, rfl⟩ := varint32_accepts.sound (ofWire_eq_ok_iff.1 hn)
    obtain ⟨fields, hfields, h⟩ := bind_eq_ok_iff.1 h
    rw [readAll_readPropertyEntry_eq_ok_iff] at hfields
    split at h
    · next k v hk hv =>
      obtain ⟨hkv, rfl⟩ := Prod.mk.inj (Except.ok.inj h)
      obtain ⟨rfl, rfl⟩ := Prod.mk.inj hkv
      exact ⟨n, size, after, hsize, rfl, ⟨fields, hfields, hk, hv⟩, rfl⟩
    · cases h
    · cases h
  · rintro ⟨n, size, after, hsize, rfl, ⟨fields, hfields, hk, hv⟩, rfl⟩
    refine ⟨(n, after), ofWire_eq_ok_iff.2 (varint32_accepts.complete hsize after), ?_⟩
    refine bind_eq_ok_iff.2 ⟨fields, readAll_readPropertyEntry_eq_ok_iff.2 hfields, ?_⟩
    rw [hk, hv]

/-- **A property is read from its whole block, or from the end of the bytes**, when the block
declares more. -/
theorem readProperty_eq_ok_iff {bytes rest : Bytes} {key value : String} :
    readProperty bytes = .ok ((key, value), rest) ↔
      (∃ front, IsProperty key value front ∧ bytes = front ++ rest) ∨
        (rest = [] ∧ IsCutProperty key value bytes) := by
  rw [readProperty_eq_ok_iff_take]
  constructor
  · rintro ⟨n, size, after, hsize, rfl, hcontent, rfl⟩
    rcases Nat.lt_or_ge after.length n with hlt | hge
    · rw [List.take_of_length_le (Nat.le_of_lt hlt)] at hcontent
      exact .inr ⟨List.drop_eq_nil_of_le (Nat.le_of_lt hlt), n, size, after, hsize, hlt, hcontent,
        rfl⟩
    · have hlen : (after.take n).length = n := List.length_take_of_le hge
      refine .inl ⟨size ++ after.take n, ⟨after.take n, hcontent, size, ?_, rfl⟩, ?_⟩
      · rwa [hlen]
      · rw [List.append_assoc, List.take_append_drop]
  · rintro (⟨front, ⟨content, hcontent, size, hsize, rfl⟩, rfl⟩ |
      ⟨rfl, n, size, content, hsize, hlt, hcontent, rfl⟩)
    · refine ⟨content.length, size, content ++ rest, hsize, by rw [List.append_assoc], ?_, ?_⟩
      · rwa [List.take_left]
      · rw [List.drop_left]
    · refine ⟨n, size, content, hsize, rfl, ?_, ?_⟩
      · rwa [List.take_of_length_le (Nat.le_of_lt hlt)]
      · rw [List.drop_eq_nil_of_le (Nat.le_of_lt hlt)]

/-! ### Fields of a record -/

/-- The bytes of the value of a field. Each known number has one wire type; a number that is not
known may have any. -/
inductive IsValue : (number wireType : Nat) → Entry → Bytes → Prop
  /-- One more property. -/
  | property {key value : String} {bytes : Bytes} : IsProperty key value bytes →
      IsValue 1 2 (.property key value) bytes
  /-- The key that chooses the partition. -/
  | partitionKey {s : String} {bytes : Bytes} : IsText s bytes →
      IsValue 2 2 (.partitionKey s) bytes
  /-- The length of the payload. -/
  | payloadSize {n : Int} {bytes : Bytes} : IsInt32 n bytes → IsValue 3 0 (.payloadSize n) bytes
  /-- Whether compaction has removed the message. -/
  | compactedOut {b : Bool} {bytes : Bytes} : IsBool b bytes → IsValue 4 0 (.compactedOut b) bytes
  /-- The time that the producer gives. -/
  | eventTime {n : Nat} {bytes : Bytes} : IsVarint64 n bytes → IsValue 5 0 (.eventTime n) bytes
  /-- Whether the partition key is Base64 of bytes. -/
  | partitionKeyIsBase64 {b : Bool} {bytes : Bytes} : IsBool b bytes →
      IsValue 6 0 (.partitionKeyIsBase64 b) bytes
  /-- The key that orders messages. -/
  | orderingKey {content bytes : Bytes} : IsBlock content bytes →
      IsValue 7 2 (.orderingKey content) bytes
  /-- The number that the producer gives. -/
  | sequenceId {n : Nat} {bytes : Bytes} : IsVarint64 n bytes → IsValue 8 0 (.sequenceId n) bytes
  /-- Whether the payload stands for no value. -/
  | nullValue {b : Bool} {bytes : Bytes} : IsBool b bytes → IsValue 9 0 (.nullValue b) bytes
  /-- Whether the partition key stands for no key. -/
  | nullPartitionKey {b : Bool} {bytes : Bytes} : IsBool b bytes →
      IsValue 10 0 (.nullPartitionKey b) bytes
  /-- Any field that is not known. -/
  | unknown {number wireType : Nat} {bytes : Bytes} : number = 0 ∨ 10 < number →
      IsSkipped wireType bytes → IsValue number wireType .unknown bytes

/-- The bytes of a field: a tag, which is not zero, and a value. -/
def IsField (entry : Entry) (bytes : Bytes) : Prop :=
  ∃ number wireType tag value, IsTag number wireType tag ∧ (number ≠ 0 ∨ wireType ≠ 0) ∧
    IsValue number wireType entry value ∧ bytes = tag ++ value

/-- The bytes of a property field whose block declares more bytes than there are. -/
def IsCutField (entry : Entry) (bytes : Bytes) : Prop :=
  ∃ key value tag block, entry = .property key value ∧ IsTag 1 2 tag ∧
    IsCutProperty key value block ∧ bytes = tag ++ block

theorem IsField.ne_nil {entry : Entry} {bytes : Bytes} (h : IsField entry bytes) : bytes ≠ [] := by
  obtain ⟨number, wireType, tag, value, htag, -, -, rfl⟩ := h
  simp [htag.ne_nil]

theorem readAs_sound {α : Type} {make : α → Entry} {read : Bytes → Except Wire.Fault (α × Bytes)}
    {P : α → Bytes → Prop} (hread : Accepts read P) {bytes rest : Bytes} {entry : Entry}
    (h : readAs make (read bytes) = .ok (entry, rest)) :
    ∃ x front, entry = make x ∧ P x front ∧ bytes = front ++ rest := by
  obtain ⟨⟨x, rest'⟩, hx, h⟩ := map_eq_ok_iff.1 h
  obtain ⟨rfl, rfl⟩ := Prod.mk.inj h
  obtain ⟨front, hfront, rfl⟩ := hread.sound (ofWire_eq_ok_iff.1 hx)
  exact ⟨x, front, rfl, hfront, rfl⟩

theorem readAs_complete {α : Type} {make : α → Entry}
    {read : Bytes → Except Wire.Fault (α × Bytes)} {P : α → Bytes → Prop} (hread : Accepts read P)
    {front : Bytes} {x : α} (hx : P x front) (rest : Bytes) :
    readAs make (read (front ++ rest)) = .ok (make x, rest) := by
  rw [readAs, hread.complete hx rest]
  rfl

theorem readValue_of_unknown {number wireType : Nat} {bytes : Bytes}
    (h : number = 0 ∨ 10 < number) :
    readValue number wireType bytes =
      (ofWire (skip none wireType bytes)).map fun rest => (.unknown, rest) := by
  have hknown : ¬ (1 ≤ number ∧ number ≤ 10) := by omega
  rw [readValue]
  split
  case isTrue hle => exact absurd hle hknown
  · rfl
  all_goals rintro rfl
  all_goals omega

/-- What is not of the grammar is a known field with another wire type, a bad value, or cut. -/
theorem readValue_sound {number wireType : Nat} {bytes rest : Bytes} {entry : Entry}
    (h : readValue number wireType bytes = .ok (entry, rest)) :
    (∃ front, IsValue number wireType entry front ∧ bytes = front ++ rest) ∨
      (number = 1 ∧ wireType = 2 ∧ rest = [] ∧
        ∃ key value, entry = .property key value ∧ IsCutProperty key value bytes) := by
  unfold readValue at h
  split at h
  case h_1 =>
    obtain ⟨⟨⟨key, value⟩, rest'⟩, hproperty, h⟩ := map_eq_ok_iff.1 h
    obtain ⟨rfl, rfl⟩ := Prod.mk.inj h
    rcases readProperty_eq_ok_iff.1 hproperty with ⟨front, hfront, rfl⟩ | ⟨rfl, hcut⟩
    · exact .inl ⟨front, .property hfront, rfl⟩
    · exact .inr ⟨rfl, rfl, rfl, key, value, rfl, hcut⟩
  case h_2 =>
    obtain ⟨x, front, rfl, hx, rfl⟩ := readAs_sound (text_accepts none) h
    exact .inl ⟨front, .partitionKey hx, rfl⟩
  case h_3 =>
    obtain ⟨x, front, rfl, hx, rfl⟩ := readAs_sound int32_accepts h
    exact .inl ⟨front, .payloadSize hx, rfl⟩
  case h_4 =>
    obtain ⟨x, front, rfl, hx, rfl⟩ := readAs_sound bool_accepts h
    exact .inl ⟨front, .compactedOut hx, rfl⟩
  case h_5 =>
    obtain ⟨x, front, rfl, hx, rfl⟩ := readAs_sound varint64_accepts h
    exact .inl ⟨front, .eventTime hx, rfl⟩
  case h_6 =>
    obtain ⟨x, front, rfl, hx, rfl⟩ := readAs_sound bool_accepts h
    exact .inl ⟨front, .partitionKeyIsBase64 hx, rfl⟩
  case h_7 =>
    obtain ⟨x, front, rfl, hx, rfl⟩ := readAs_sound (block_accepts none) h
    exact .inl ⟨front, .orderingKey hx, rfl⟩
  case h_8 =>
    obtain ⟨x, front, rfl, hx, rfl⟩ := readAs_sound varint64_accepts h
    exact .inl ⟨front, .sequenceId hx, rfl⟩
  case h_9 =>
    obtain ⟨x, front, rfl, hx, rfl⟩ := readAs_sound bool_accepts h
    exact .inl ⟨front, .nullValue hx, rfl⟩
  case h_10 =>
    obtain ⟨x, front, rfl, hx, rfl⟩ := readAs_sound bool_accepts h
    exact .inl ⟨front, .nullPartitionKey hx, rfl⟩
  case h_11 =>
    split at h
    · cases h
    · next hknown =>
      obtain ⟨rest', hrest, h⟩ := map_eq_ok_iff.1 h
      obtain ⟨rfl, rfl⟩ := Prod.mk.inj h
      obtain ⟨front, hfront, rfl⟩ := skip_eq_ok_iff.1 (ofWire_eq_ok_iff.1 hrest)
      exact .inl ⟨front, .unknown (by omega) hfront, rfl⟩

theorem readValue_complete {number wireType : Nat} {front : Bytes} {entry : Entry}
    (h : IsValue number wireType entry front) (rest : Bytes) :
    readValue number wireType (front ++ rest) = .ok (entry, rest) := by
  cases h with
  | property h =>
    change (readProperty (front ++ rest)).map _ = _
    rw [readProperty_eq_ok_iff.2 (.inl ⟨front, h, rfl⟩)]
    rfl
  | partitionKey h => exact readAs_complete (text_accepts none) h rest
  | payloadSize h => exact readAs_complete int32_accepts h rest
  | compactedOut h => exact readAs_complete bool_accepts h rest
  | eventTime h => exact readAs_complete varint64_accepts h rest
  | partitionKeyIsBase64 h => exact readAs_complete bool_accepts h rest
  | orderingKey h => exact readAs_complete (block_accepts none) h rest
  | sequenceId h => exact readAs_complete varint64_accepts h rest
  | nullValue h => exact readAs_complete bool_accepts h rest
  | nullPartitionKey h => exact readAs_complete bool_accepts h rest
  | unknown hnumber h =>
    rw [readValue_of_unknown hnumber, skip_eq_ok_iff.2 ⟨front, h, rfl⟩]
    rfl

theorem readEntry_complete {front : Bytes} {entry : Entry} (h : IsField entry front)
    (rest : Bytes) : readEntry (front ++ rest) = .ok (entry, rest) := by
  obtain ⟨number, wireType, tag, value, htag, hne, hvalue, rfl⟩ := h
  obtain ⟨n, hn, rfl, rfl⟩ := htag.read (value ++ rest)
  rw [readEntry, List.append_assoc, hn]
  simp only [ofWire, ok_bind]
  rw [if_neg (by omega), readValue_complete hvalue rest]

/-- **A field is read as the grammar says, or it is a property that is cut off.** -/
theorem readEntry_eq_ok_iff {bytes rest : Bytes} {entry : Entry} :
    readEntry bytes = .ok (entry, rest) ↔
      (∃ front, IsField entry front ∧ bytes = front ++ rest) ∨
        (rest = [] ∧ IsCutField entry bytes) := by
  constructor
  · intro h
    rw [readEntry, bind_eq_ok_iff] at h
    obtain ⟨⟨n, after⟩, hn, h⟩ := h
    obtain ⟨tag, htag, rfl⟩ := varint32_accepts.sound (ofWire_eq_ok_iff.1 hn)
    dsimp only at h
    split at h
    · cases h
    · next hne =>
      have htag := IsTag.of_varint32 htag
      rcases readValue_sound h with ⟨value, hvalue, rfl⟩ | ⟨hnumber, hwire, rfl, key, value, rfl, hcut⟩
      · exact .inl ⟨tag ++ value, ⟨_, _, tag, value, htag, by omega, hvalue, rfl⟩,
          by rw [List.append_assoc]⟩
      · rw [hnumber, hwire] at htag
        exact .inr ⟨rfl, key, value, tag, after, rfl, htag, hcut, rfl⟩
  · rintro (⟨front, hfront, rfl⟩ | ⟨rfl, key, value, tag, block, rfl, htag, hcut, rfl⟩)
    · exact readEntry_complete hfront rest
    · obtain ⟨n, hn, hnumber, hwire⟩ := htag.read block
      rw [readEntry, hn]
      simp only [ofWire, ok_bind]
      rw [if_neg (by omega), hnumber, hwire]
      change (readProperty block).map _ = _
      rw [readProperty_eq_ok_iff.2 (.inr ⟨rfl, hcut⟩)]
      rfl

theorem readEntry_consumes : Consumes readEntry := by
  intro bytes entry rest h
  rcases readEntry_eq_ok_iff.1 h with ⟨front, hfront, rfl⟩ | ⟨rfl, _, _, tag, block, -, htag, -, rfl⟩
  · have := List.length_pos_iff.2 hfront.ne_nil
    rw [List.length_append]
    omega
  · have := List.length_pos_iff.2 htag.ne_nil
    rw [List.length_append, List.length_nil]
    omega

end BrokerAdmin.Metadata
