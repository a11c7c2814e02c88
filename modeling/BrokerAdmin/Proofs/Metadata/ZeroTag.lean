import BrokerAdmin.Proofs.Metadata.Fields

/-!
# Tags with the number zero

No field has the number zero, so a tag that gives it is a sign that the bytes are no record. Both
loops over tags look for such a tag, but not in the same way.

## The distinction that decides it

* Inside the block of a property the number alone is looked at. A tag with the number zero is an
  error there, whatever its wire type is.
* At the top level the whole tag is looked at. Only the wire type zero makes a tag with the number
  zero a tag that is zero. With any other wire type the field is passed over like one that is not
  known, and is an error only if its value cannot be passed over.

The fields in front of the tag need not be good ones. A whole field either is a field of the grammar
or is refused, and what follows it has no part in that.

## Main definitions

* `Metadata.AreWhole`: whole fields, with any values.
* `Metadata.OpensProperty`: bytes that end inside the block of a property.

## Main results

* `Metadata.sequence_or_stuck`: whole fields are fields of the grammar, or nothing is read from them.
* `Metadata.zeroTag_rejected_iff`: when a tag with the number zero is an error.
-/

namespace BrokerAdmin.Metadata

open Result Wire

/-! ### Whole fields -/

/-- A whole field: a tag whose number is not zero, and all bytes of a value of its wire type. -/
def IsWhole (bytes : Bytes) : Prop :=
  ∃ number wireType tag value, 1 ≤ number ∧ IsTag number wireType tag ∧ IsSkipped wireType value ∧
    bytes = tag ++ value

/-- Whole fields, one behind the other. -/
inductive AreWhole : Bytes → Prop
  /-- There are none. -/
  | nil : AreWhole []
  /-- One more in front. -/
  | cons {front rest : Bytes} : IsWhole front → AreWhole rest → AreWhole (front ++ rest)

theorem IsWhole.ne_nil {bytes : Bytes} (h : IsWhole bytes) : bytes ≠ [] := by
  obtain ⟨_, _, tag, value, -, htag, -, rfl⟩ := h
  simp [htag.ne_nil]

/-- A tag is read in one way. -/
theorem IsTag.unique {number number' wireType wireType' : Nat} {tag tag' rest rest' : Bytes}
    (h : IsTag number wireType tag) (h' : IsTag number' wireType' tag')
    (heq : tag ++ rest = tag' ++ rest') :
    number = number' ∧ wireType = wireType' ∧ rest = rest' := by
  obtain ⟨n, hn, rfl, rfl⟩ := h.read rest
  obtain ⟨n', hn', rfl, rfl⟩ := h'.read rest'
  rw [heq, hn'] at hn
  obtain ⟨rfl, rfl⟩ := Prod.mk.inj (Except.ok.inj hn)
  exact ⟨rfl, rfl, rfl⟩

/-- The end of a value is where its wire type says. -/
theorem isSkipped_unique {wireType : Nat} {value value' rest rest' : Bytes}
    (h : IsSkipped wireType value) (h' : IsSkipped wireType value')
    (heq : value ++ rest = value' ++ rest') : value = value' ∧ rest = rest' := by
  have hread : skip none wireType (value ++ rest) = .ok rest := skip_eq_ok_iff.2 ⟨value, h, rfl⟩
  have hread' : skip none wireType (value ++ rest) = .ok rest' :=
    skip_eq_ok_iff.2 ⟨value', h', heq⟩
  obtain rfl := Except.ok.inj (hread.symm.trans hread')
  exact ⟨List.append_cancel_right heq, rfl⟩

/-- A good value has all bytes of a value of its wire type. -/
theorem IsValue.isSkipped {number wireType : Nat} {entry : Entry} {bytes : Bytes}
    (h : IsValue number wireType entry bytes) : IsSkipped wireType bytes := by
  have hbool : ∀ {b : Bool}, IsBool b bytes → IsSkipped 0 bytes := fun ⟨n, hn, _⟩ => ⟨n, hn⟩
  cases h with
  | property h =>
    obtain ⟨content, -, hblock⟩ := h
    exact ⟨content, hblock⟩
  | partitionKey h => exact ⟨_, h⟩
  | payloadSize h =>
    obtain ⟨n, hn, -⟩ := h
    exact ⟨n, hn⟩
  | compactedOut h => exact hbool h
  | eventTime h => exact ⟨_, h⟩
  | partitionKeyIsBase64 h => exact hbool h
  | orderingKey h => exact ⟨_, h⟩
  | sequenceId h => exact ⟨_, h⟩
  | nullValue h => exact hbool h
  | nullPartitionKey h => exact hbool h
  | unknown _ h => exact h

theorem IsPropertyValue.isSkipped {number wireType : Nat} {entry : PropertyEntry} {bytes : Bytes}
    (h : IsPropertyValue number wireType entry bytes) : IsSkipped wireType bytes := by
  cases h with
  | key h => exact ⟨_, h⟩
  | value h => exact ⟨_, h⟩
  | unknown _ _ h => exact h

/-- **A whole field is a field of the grammar, or is refused** whatever follows it. -/
theorem IsWhole.isField_or {bytes : Bytes} (h : IsWhole bytes) :
    (∃ entry, IsField entry bytes) ∨
      ∀ rest entry after, readEntry (bytes ++ rest) ≠ .ok (entry, after) := by
  refine Classical.or_iff_not_imp_left.2 fun hnone rest entry after hread => ?_
  obtain ⟨number, wireType, tag, value, -, htag, hvalue, rfl⟩ := h
  rcases readEntry_eq_ok_iff.1 hread with
    ⟨front, hfield, heq⟩ | ⟨-, key, text, tag', block, -, htag', hcut, heq⟩
  · have hfield' := hfield
    obtain ⟨_, _, tag', value', htag', -, hvalue', rfl⟩ := hfield'
    rw [List.append_assoc, List.append_assoc] at heq
    obtain ⟨-, rfl, hrest⟩ := htag.unique htag' heq
    obtain ⟨rfl, rfl⟩ := isSkipped_unique hvalue hvalue'.isSkipped hrest
    rw [List.append_cancel_right heq] at hnone
    exact hnone ⟨entry, hfield⟩
  · -- The block of a whole field is not cut off.
    rw [List.append_assoc] at heq
    obtain ⟨-, rfl, hrest⟩ := htag.unique htag' heq
    obtain ⟨content, size, hsize, rfl⟩ := hvalue
    obtain ⟨n, size', content', hsize', hlt, -, rfl⟩ := hcut
    have hlength := varint32_accepts.complete hsize (content ++ rest)
    rw [← List.append_assoc, hrest, varint32_accepts.complete hsize' content'] at hlength
    obtain ⟨rfl, rfl⟩ := Prod.mk.inj (Except.ok.inj hlength)
    rw [List.length_append] at hlt
    omega

theorem IsWhole.isPropertyField_or {bytes : Bytes} (h : IsWhole bytes) (room : Room) :
    (∃ entry, IsPropertyField entry bytes) ∨
      ∀ rest entry after, readPropertyEntry room (bytes ++ rest) ≠ .ok (entry, after) := by
  refine Classical.or_iff_not_imp_left.2 fun hnone rest entry after hread => ?_
  obtain ⟨number, wireType, tag, value, -, htag, hvalue, rfl⟩ := h
  obtain ⟨front, hfield, heq⟩ := (readPropertyEntry_accepts room).sound hread
  have hfield' := hfield
  obtain ⟨_, _, tag', value', htag', hvalue', rfl⟩ := hfield'
  rw [List.append_assoc, List.append_assoc] at heq
  obtain ⟨-, rfl, hrest⟩ := htag.unique htag' heq
  obtain ⟨rfl, rfl⟩ := isSkipped_unique hvalue hvalue'.isSkipped hrest
  rw [List.append_cancel_right heq] at hnone
  exact hnone ⟨entry, hfield⟩

/-- Reading to the end begins with a field, unless there is nothing to read. -/
theorem exists_read_of_steps {ε α : Type} {read : Bytes → Except ε (α × Bytes)} {bytes : Bytes}
    {xs : List α} (h : Steps read bytes xs []) (hne : bytes ≠ []) :
    ∃ x rest ys, read bytes = .ok (x, rest) ∧ Steps read rest ys [] ∧ xs = x :: ys := by
  cases h with
  | done => exact absurd rfl hne
  | step hread hsteps => exact ⟨_, _, _, hread, hsteps, rfl⟩

/-- **Whole fields are fields of the grammar, or nothing is read from them** to the end, whatever
follows them. -/
theorem sequence_or_stuck {ε α : Type} {read : Bytes → Except ε (α × Bytes)}
    {P : α → Bytes → Prop}
    (hcomplete : ∀ x front rest, P x front → read (front ++ rest) = .ok (x, rest))
    (hfield : ∀ bytes, IsWhole bytes →
      (∃ x, P x bytes) ∨ ∀ rest x after, read (bytes ++ rest) ≠ .ok (x, after))
    {front : Bytes} (h : AreWhole front) :
    (∃ xs, Sequence P xs front) ∨ ∀ rest xs, ¬ Steps read (front ++ rest) xs [] := by
  induction h with
  | nil => exact .inl ⟨[], .nil⟩
  | @cons first others hfirst _ ih =>
    have hsteps : ∀ rest xs, Steps read (first ++ others ++ rest) xs [] →
        ∃ x after ys, read (first ++ (others ++ rest)) = .ok (x, after) ∧ Steps read after ys [] := by
      intro rest xs h
      rw [List.append_assoc] at h
      obtain ⟨x, after, ys, hread, hys, -⟩ :=
        exists_read_of_steps h (by simp [hfirst.ne_nil])
      exact ⟨x, after, ys, hread, hys⟩
    rcases hfield first hfirst with ⟨x, hx⟩ | hrefused
    · rcases ih with ⟨xs, hxs⟩ | hstuck
      · exact .inl ⟨x :: xs, .cons hx hxs⟩
      · refine .inr fun rest xs h => ?_
        obtain ⟨_, _, ys, hread, hys⟩ := hsteps rest xs h
        rw [hcomplete x first _ hx] at hread
        obtain ⟨-, rfl⟩ := Prod.mk.inj (Except.ok.inj hread)
        exact hstuck rest ys hys
    · refine .inr fun rest xs h => ?_
      obtain ⟨_, _, _, hread, -⟩ := hsteps rest xs h
      exact hrefused _ _ _ hread

/-! ### The tag -/

/-- The bytes of a number to base 128, least significant digit first, however many they are. -/
inductive IsBase128 : Nat → Bytes → Prop
  /-- The last byte. -/
  | last {b : UInt8} : b < 0x80 → IsBase128 b.toNat [b]
  /-- A byte that is not the last. -/
  | cont {n : Nat} {b : UInt8} {bytes : Bytes} : ¬ b < 0x80 → IsBase128 n bytes →
      IsBase128 (b.toNat - 128 + 128 * n) (b :: bytes)

theorem IsBase128.ne_nil {n : Nat} {bytes : Bytes} (h : IsBase128 n bytes) : bytes ≠ [] := by
  cases h <;> simp

/-- **A number to base 128 is a varint, or is refused** for its many bytes or its size. -/
theorem IsBase128.isVarint_or {lastMax : UInt8} (hmax : lastMax < 0x80) {n : Nat} {bytes : Bytes}
    (h : IsBase128 n bytes) (more : Nat) :
    IsVarint lastMax more n bytes ∨
      ∀ rest, varint lastMax more (bytes ++ rest) = .error .incorrectVarint := by
  induction h generalizing more with
  | @last b hb =>
    cases more with
    | zero =>
      by_cases hle : b ≤ lastMax
      · exact .inl (.full hle)
      · exact .inr fun rest => by simp [varint, hle]
    | succ more => exact .inl (.last hb)
  | @cont n b bytes hb _ ih =>
    cases more with
    | zero =>
      have hle : ¬ b ≤ lastMax := fun hle => hb (UInt8.lt_of_le_of_lt hle hmax)
      exact .inr fun rest => by simp [varint, hle]
    | succ more =>
      rcases ih more with hvarint | hrefused
      · exact .inl (.cont hb hvarint)
      · exact .inr fun rest => by simp [varint, hb, hrefused rest]

/-- A tag with the number zero is a tag of the grammar, or is refused. -/
theorem IsBase128.isTag_or {wireType : Nat} {tag : Bytes} (hwire : wireType < 8)
    (h : IsBase128 wireType tag) :
    IsTag 0 wireType tag ∨ ∀ rest, varint32 (tag ++ rest) = .error .incorrectVarint := by
  refine (h.isVarint_or (by decide) 4).imp_left fun hvarint => ⟨hwire, ?_⟩
  rwa [Nat.zero_mul, Nat.zero_add]

/-- **Inside a property**, nothing is read from a tag with the number zero. -/
theorem readPropertyEntry_zeroTag {wireType : Nat} {tag : Bytes} (hwire : wireType < 8)
    (h : IsBase128 wireType tag) (room : Room) (rest : Bytes) (entry : PropertyEntry)
    (after : Bytes) : readPropertyEntry room (tag ++ rest) ≠ .ok (entry, after) := by
  rcases h.isTag_or hwire with htag | hrefused
  · obtain ⟨n, hn, hnumber, -⟩ := htag.read rest
    rw [readPropertyEntry, hn]
    simp [ofWire, hnumber, readPropertyValue]
  · simp [readPropertyEntry, hrefused rest, ofWire]

/-- **At the top level**, a tag with the number zero is read as that of an unknown field if it is not
zero as a whole. -/
theorem readEntry_zeroTag_eq_ok_iff {wireType : Nat} {tag : Bytes} (hwire : wireType < 8)
    (h : IsBase128 wireType tag) {rest : Bytes} {entry : Entry} {after : Bytes} :
    readEntry (tag ++ rest) = .ok (entry, after) ↔
      wireType ≠ 0 ∧ IsTag 0 wireType tag ∧ entry = .unknown ∧
        ∃ value, IsSkipped wireType value ∧ rest = value ++ after := by
  rcases h.isTag_or hwire with htag | hrefused
  · obtain ⟨n, hn, hnumber, hwireType⟩ := htag.read rest
    rw [readEntry, hn]
    simp only [ofWire, ok_bind, hnumber, hwireType]
    split
    · next hzero =>
      obtain rfl : wireType = 0 := by omega
      simp
    · next hzero =>
      rw [readValue_of_unknown (.inl rfl), map_eq_ok_iff]
      constructor
      · rintro ⟨rest', hskip, heq⟩
        obtain ⟨rfl, rfl⟩ := Prod.mk.inj heq
        exact ⟨by omega, htag, rfl, skip_eq_ok_iff.1 (ofWire_eq_ok_iff.1 hskip)⟩
      · rintro ⟨-, -, rfl, hvalue⟩
        exact ⟨after, ofWire_eq_ok_iff.2 (skip_eq_ok_iff.2 hvalue), rfl⟩
  · constructor
    · intro hread
      simp [readEntry, hrefused rest, ofWire] at hread
    · rintro ⟨-, htag, -, -⟩
      obtain ⟨n, hn, -⟩ := htag.read rest
      rw [hrefused rest] at hn
      cases hn

/-! ### Records -/

/-- Bytes that end inside the block of a property, behind whole fields of it and with some bytes of
the block left, which may be there or not. -/
def OpensProperty (left : Nat) (front : Bytes) : Prop :=
  ∃ before key n size inner, AreWhole before ∧ IsTag 1 2 key ∧ IsVarint32 n size ∧ AreWhole inner ∧
    inner.length + left = n ∧ front = before ++ (key ++ (size ++ inner))

/-- What is read from a property is in its block. -/
theorem exists_isKeyValue_of_readEntry {key size content rest : Bytes} {n : Nat} {entry : Entry}
    (hkey : IsTag 1 2 key) (hsize : IsVarint32 n size)
    (h : readEntry (key ++ (size ++ content)) = .ok (entry, rest)) :
    ∃ name value, IsKeyValue name value (content.take n) := by
  obtain ⟨m, hm, hnumber, hwire⟩ := hkey.read (size ++ content)
  rw [readEntry, hm] at h
  simp only [ofWire, ok_bind] at h
  rw [if_neg (by omega), hnumber, hwire] at h
  obtain ⟨⟨⟨name, value⟩, _⟩, hproperty, -⟩ := map_eq_ok_iff.1 h
  obtain ⟨n', size', content', hsize', heq, hcontent, -⟩ := readProperty_eq_ok_iff_take.1 hproperty
  have hread := varint32_accepts.complete hsize content
  rw [heq, varint32_accepts.complete hsize' content'] at hread
  obtain ⟨rfl, rfl⟩ := Prod.mk.inj (Except.ok.inj hread)
  exact ⟨name, value, hcontent⟩

/-- The record that is left when an unknown field behind whole fields is taken out. -/
theorem decode_zeroTag_eq_ok_iff {front tag rest : Bytes} {wireType : Nat} (hfront : AreWhole front)
    (hwire : wireType < 8) (htag : IsBase128 wireType tag) {m : Metadata} :
    decode (front ++ (tag ++ rest)) = .ok m ↔
      wireType ≠ 0 ∧ IsTag 0 wireType tag ∧ ∃ value after, IsSkipped wireType value ∧
        rest = value ++ after ∧ decode (front ++ after) = .ok m := by
  have hne : tag ++ rest ≠ [] := by simp [htag.ne_nil]
  rcases sequence_or_stuck (fun _ _ rest h => readEntry_complete h rest)
    (fun _ h => h.isField_or) hfront with ⟨entries, hentries⟩ | hstuck
  · have hsteps := steps_of_sequence hentries
    -- Both readings go through the fields in front, and an unknown field has no effect.
    have hmeaning : ∀ ys, meaning (entries ++ .unknown :: ys) = meaning (entries ++ ys) := by
      intro ys
      rw [← meaning_filter_isKnown, ← meaning_filter_isKnown (entries ++ ys), List.filter_append,
        List.filter_append, List.filter_cons_of_neg (by decide)]
    simp only [decode_eq_ok_iff, (hsteps _).end_iff readEntry_consumes]
    constructor
    · rintro ⟨_, ⟨zs, hzs, rfl⟩, hfinish⟩
      obtain ⟨entry, after, ys, hread, hys, rfl⟩ := exists_read_of_steps hzs hne
      obtain ⟨hzero, htag', rfl, value, hvalue, rfl⟩ :=
        (readEntry_zeroTag_eq_ok_iff hwire htag).1 hread
      rw [hmeaning] at hfinish
      exact ⟨hzero, htag', value, after, hvalue, rfl, _, ⟨ys, hys, rfl⟩, hfinish⟩
    · rintro ⟨hzero, htag', value, after, hvalue, rfl, _, ⟨ys, hys, rfl⟩, hfinish⟩
      have hread : readEntry (tag ++ (value ++ after)) = .ok (.unknown, after) :=
        (readEntry_zeroTag_eq_ok_iff hwire htag).2 ⟨hzero, htag', rfl, value, hvalue, rfl⟩
      exact ⟨_, ⟨_, .step hread hys, rfl⟩, by rwa [hmeaning]⟩
  · simp only [decode_eq_ok_iff]
    constructor
    · rintro ⟨xs, hxs, -⟩
      exact absurd hxs (hstuck _ xs)
    · rintro ⟨-, -, _, after, -, -, xs, hxs, -⟩
      exact absurd hxs (hstuck after xs)

/-- The block of a property with such a tag behind whole fields gives no key and value. -/
theorem not_isKeyValue_zeroTag {inner tag rest : Bytes} {wireType : Nat} (hinner : AreWhole inner)
    (hwire : wireType < 8) (htag : IsBase128 wireType tag) (key value : String) :
    ¬ IsKeyValue key value (inner ++ (tag ++ rest)) := by
  rintro ⟨fields, hfields, -⟩
  have haccepts := readPropertyEntry_accepts none
  have hsteps : Steps (readPropertyEntry none) (inner ++ (tag ++ rest)) fields [] :=
    haccepts.steps_iff.2 ⟨_, hfields, (List.append_nil _).symm⟩
  rcases sequence_or_stuck (fun _ _ rest h => haccepts.complete h rest)
    (fun _ h => h.isPropertyField_or none) hinner with ⟨entries, hentries⟩ | hstuck
  · have hfront : Steps (readPropertyEntry none) (inner ++ (tag ++ rest)) entries (tag ++ rest) :=
      haccepts.steps_iff.2 ⟨inner, hentries, rfl⟩
    obtain ⟨ys, hys, -⟩ := (hfront.end_iff (readPropertyEntry_consumes none)).1 hsteps
    obtain ⟨entry, after, _, hread, -, -⟩ := exists_read_of_steps hys (by simp [htag.ne_nil])
    exact readPropertyEntry_zeroTag hwire htag none rest entry after hread
  · exact hstuck _ fields hsteps

/-- **A tag with the number zero inside a property** is an error. -/
theorem decode_zeroTag_inProperty {front tag : Bytes} {wireType left : Nat} (hwire : wireType < 8)
    (htag : IsBase128 wireType tag) (hfront : OpensProperty left front) (hleft : tag.length ≤ left)
    (rest : Bytes) (m : Metadata) : decode (front ++ (tag ++ rest)) ≠ .ok m := by
  obtain ⟨before, key, n, size, inner, hbefore, hkey, hsize, hinner, rfl, rfl⟩ := hfront
  intro hread
  obtain ⟨xs, hxs, -⟩ := decode_eq_ok_iff.1 hread
  simp only [List.append_assoc] at hxs
  rcases sequence_or_stuck (fun _ _ rest h => readEntry_complete h rest)
    (fun _ h => h.isField_or) hbefore with ⟨entries, hentries⟩ | hstuck
  · obtain ⟨ys, hys, -⟩ := ((steps_of_sequence hentries _).end_iff readEntry_consumes).1 hxs
    obtain ⟨entry, after, _, hentry, -, -⟩ := exists_read_of_steps hys (by simp [hkey.ne_nil])
    obtain ⟨key', value, hcontent⟩ := exists_isKeyValue_of_readEntry hkey hsize hentry
    have htake : (inner ++ (tag ++ rest)).take (inner.length + left) =
        inner ++ (tag ++ rest.take (left - tag.length)) := by
      simp [List.take_append, List.take_of_length_le hleft, List.take_of_length_le]
    rw [htake] at hcontent
    exact not_isKeyValue_zeroTag hinner hwire htag key' value hcontent
  · exact hstuck _ xs hxs

/-- **When a tag with the number zero is an error.** Inside the block of a property it always is,
behind any whole fields of the record and of the property. Behind whole fields of the record it is one
unless the record would be read without it: it is a tag with a wire type that is not zero, a value of
that wire type follows, and what is left is a record. -/
theorem zeroTag_rejected_iff {wireType : Nat} {tag : Bytes} (hwire : wireType < 8)
    (htag : IsBase128 wireType tag) :
    (∀ front left rest, OpensProperty left front → tag.length ≤ left →
      ∃ reason, ofBytes (front ++ (tag ++ rest)) = .error (.metadataDecode reason)) ∧
    ∀ front rest, AreWhole front →
      ((∃ reason, ofBytes (front ++ (tag ++ rest)) = .error (.metadataDecode reason)) ↔
        ¬ (wireType ≠ 0 ∧ IsTag 0 wireType tag ∧ ∃ value after, IsSkipped wireType value ∧
            rest = value ++ after ∧ ∃ m, ofBytes (front ++ after) = .ok m)) := by
  constructor
  · intro front left rest hfront hleft
    exact ofBytes_eq_error_iff.2 (decode_zeroTag_inProperty hwire htag hfront hleft rest)
  · intro front rest hfront
    simp only [ofBytes_eq_error_iff, ofBytes_eq_ok_iff]
    constructor
    · rintro hnone ⟨hzero, htag', value, after, hvalue, hrest, m, hm⟩
      exact hnone m ((decode_zeroTag_eq_ok_iff hfront hwire htag).2
        ⟨hzero, htag', value, after, hvalue, hrest, hm⟩)
    · intro hnot m hm
      obtain ⟨hzero, htag', value, after, hvalue, hrest, hm'⟩ :=
        (decode_zeroTag_eq_ok_iff hfront hwire htag).1 hm
      exact hnot ⟨hzero, htag', value, after, hvalue, hrest, m, hm'⟩

/-- The tag of a block with the number zero, with a byte that it does not need. -/
theorem isBase128_overlong : IsBase128 2 [0x82, 0x00] :=
  .cont (b := 0x82) (by decide) (.last (b := 0x00) (by decide))

/-- A payload size. -/
theorem areWhole_payloadSize : AreWhole [0x18, 0x03] := by
  have htag : IsTag 3 0 [0x18] := ⟨by decide, IsVarint.last (b := 0x18) (by decide)⟩
  have hvalue : IsSkipped 0 [0x03] := ⟨3, IsVarint.last (b := 0x03) (by decide)⟩
  have hwhole : IsWhole [0x18, 0x03] := ⟨3, 0, [0x18], [0x03], by decide, htag, hvalue, rfl⟩
  exact .cons hwhole .nil

/-- A property that is 100 bytes long, behind a payload size. -/
theorem opensProperty_hundred : OpensProperty 100 [0x18, 0x03, 0x0A, 0x64] :=
  ⟨[0x18, 0x03], [0x0A], 100, [0x64], [], areWhole_payloadSize,
    ⟨by decide, IsVarint.last (b := 0x0A) (by decide)⟩, IsVarint.last (b := 0x64) (by decide), .nil,
    rfl, rfl⟩

/-- An over-long tag of a block is an error inside a property, and at the top level where the block
is cut off. -/
theorem zeroTag_rejected_overlong :
    2 < 8 ∧ IsBase128 2 [0x82, 0x00] ∧
      OpensProperty 100 [0x18, 0x03, 0x0A, 0x64] ∧ AreWhole [0x18, 0x03] ∧
      (∃ reason, ofBytes [0x18, 0x03, 0x0A, 0x64, 0x82, 0x00] = .error (.metadataDecode reason)) ∧
      (∃ reason, ofBytes [0x18, 0x03, 0x82, 0x00, 0x05] = .error (.metadataDecode reason)) ∧
      ¬ (2 ≠ 0 ∧ IsTag 0 2 [0x82, 0x00] ∧ ∃ value after, IsSkipped 2 value ∧
        [0x05] = value ++ after ∧ ∃ m, ofBytes ([0x18, 0x03] ++ after) = .ok m) := by
  have hmain := zeroTag_rejected_iff (by decide) isBase128_overlong
  have hcut : ofBytes [0x18, 0x03, 0x82, 0x00, 0x05] =
      .error (.metadataDecode "Unexpected EOF") := by decide +kernel
  exact ⟨by decide, isBase128_overlong, opensProperty_hundred, areWhole_payloadSize,
    hmain.1 _ 100 [] opensProperty_hundred (by decide), ⟨_, hcut⟩,
    (hmain.2 [0x18, 0x03] [0x05] areWhole_payloadSize).1 ⟨_, hcut⟩⟩

/-- At the top level, the tag of an empty block with the number zero is passed over. -/
theorem zeroTag_accepted_emptyBlock :
    IsBase128 2 [0x02] ∧ AreWhole [] ∧
      ofBytes [0x02, 0x00, 0x18, 0x00] = .ok { payloadSize := 0 } ∧
      ¬ ∃ reason, ofBytes [0x02, 0x00, 0x18, 0x00] = .error (.metadataDecode reason) := by
  have hread : ofBytes [0x02, 0x00, 0x18, 0x00] = .ok { payloadSize := 0 } := by decide +kernel
  refine ⟨.last (b := 0x02) (by decide), .nil, hread, ?_⟩
  rintro ⟨reason, herror⟩
  rw [hread] at herror
  cases herror

end BrokerAdmin.Metadata
