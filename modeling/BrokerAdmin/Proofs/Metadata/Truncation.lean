import BrokerAdmin.Proofs.Metadata.Meaning

/-!
# Records cut off inside a property

A property declares the length of its block. When the record ends before the block does, its reader
takes the bytes that are left for the block and goes by what stands in them: whether the cut is
noticed depends on where it falls.

## The distinction that decides it

The cut goes unnoticed exactly when

* the bytes left are whole fields of a property, among them a key and a value, and
* the fields in front give a payload size that is not negative, since none can follow.

## Main definitions

* `Metadata.CutAfter`: bytes that end inside a property, with the fields in front of it.

## Main results

* `Metadata.decode_eq_ok_iff_of_cut`: what a record that is cut off is read as.
* `Metadata.cut_rejected_iff`: when the cut is an error.
-/

namespace BrokerAdmin.Metadata

open Result Wire

/-- Reading bytes gives some fields and then comes to a property whose block declares more bytes than
are left. -/
def CutAfter (entries : List Entry) (left bytes : Bytes) : Prop :=
  ∃ tag n size, Steps readEntry bytes entries (tag ++ (size ++ left)) ∧ IsTag 1 2 tag ∧
    IsVarint32 n size ∧ left.length < n

/-- Reading the field whose block is cut takes all that is left. -/
theorem readEntry_cut {tag size left rest : Bytes} {n : Nat} {entry : Entry}
    (htag : IsTag 1 2 tag) (hsize : IsVarint32 n size) (hlt : left.length < n) :
    readEntry (tag ++ (size ++ left)) = .ok (entry, rest) ↔
      rest = [] ∧ ∃ key value, IsKeyValue key value left ∧ entry = .property key value := by
  obtain ⟨m, hm, hnumber, hwire⟩ := htag.read (size ++ left)
  rw [readEntry, hm]
  simp only [ofWire, ok_bind]
  rw [if_neg (by omega), hnumber, hwire]
  change (readProperty (size ++ left)).map _ = _ ↔ _
  rw [map_eq_ok_iff]
  constructor
  · rintro ⟨⟨⟨key, value⟩, rest'⟩, hproperty, h⟩
    obtain ⟨rfl, rfl⟩ := Prod.mk.inj h
    obtain ⟨n', size', after, hsize', heq, hcontent, rfl⟩ := readProperty_eq_ok_iff_take.1 hproperty
    -- Both are what the reader of lengths takes off the same bytes.
    have hread := varint32_accepts.complete hsize left
    rw [heq, varint32_accepts.complete hsize' after] at hread
    obtain ⟨rfl, rfl⟩ := Prod.mk.inj (Except.ok.inj hread)
    rw [List.take_of_length_le (Nat.le_of_lt hlt)] at hcontent
    exact ⟨List.drop_eq_nil_of_le (Nat.le_of_lt hlt), key, value, hcontent, rfl⟩
  · rintro ⟨rfl, key, value, hcontent, rfl⟩
    exact ⟨_, readProperty_eq_ok_iff.2 (.inr ⟨rfl, n, size, left, hsize, hlt, hcontent, rfl⟩), rfl⟩

/-- The fields of bytes that are cut off are those in front of the cut and one more property. -/
theorem steps_cut {entries fields : List Entry} {left bytes : Bytes}
    (h : CutAfter entries left bytes) :
    Steps readEntry bytes fields [] ↔
      ∃ key value, IsKeyValue key value left ∧ fields = entries ++ [.property key value] := by
  obtain ⟨tag, n, size, hsteps, htag, hsize, hlt⟩ := h
  have hentry : ∀ entry rest, readEntry (tag ++ (size ++ left)) = .ok (entry, rest) ↔
      rest = [] ∧ ∃ key value, IsKeyValue key value left ∧ entry = .property key value :=
    fun _ _ => readEntry_cut htag hsize hlt
  have hne : tag ++ (size ++ left) ≠ [] := by simp [htag.ne_nil]
  generalize tag ++ (size ++ left) = mid at hsteps hentry hne
  rw [hsteps.end_iff readEntry_consumes]
  constructor
  · rintro ⟨last, hlast, rfl⟩
    cases hlast with
    | done => exact absurd rfl hne
    | step hfirst hrest =>
      obtain ⟨rfl, key, value, hcontent, rfl⟩ := (hentry _ _).1 hfirst
      cases hrest with
      | done => exact ⟨key, value, hcontent, rfl⟩
      | step hmore _ => exact absurd (readEntry_consumes _ _ _ hmore) (Nat.not_lt_zero _)
  · rintro ⟨key, value, hcontent, rfl⟩
    exact ⟨_, .step ((hentry _ _).2 ⟨rfl, key, value, hcontent, rfl⟩) .done, rfl⟩

/-- **What a record that is cut off is read as**: the fields in front of the cut, and the property
that the bytes left make. -/
theorem decode_eq_ok_iff_of_cut {entries : List Entry} {left bytes : Bytes} {m : Metadata}
    (h : CutAfter entries left bytes) :
    decode bytes = .ok m ↔
      ∃ key value, IsKeyValue key value left ∧
        finish (meaning (entries ++ [.property key value])) = .ok m := by
  rw [decode_eq_ok_iff]
  constructor
  · rintro ⟨fields, hfields, hfinish⟩
    obtain ⟨key, value, hcontent, rfl⟩ := (steps_cut h).1 hfields
    exact ⟨key, value, hcontent, hfinish⟩
  · rintro ⟨key, value, hcontent, hfinish⟩
    exact ⟨_, (steps_cut h).2 ⟨key, value, hcontent, rfl⟩, hfinish⟩

/-- **When the cut is an error**: a record that ends inside a property is rejected unless the bytes
left are whole fields with a key and a value, and the fields in front give a payload size that is not
negative. -/
theorem cut_rejected_iff {entries : List Entry} {left bytes : Bytes}
    (h : CutAfter entries left bytes) :
    (∃ reason, ofBytes bytes = .error (.metadataDecode reason)) ↔
      ¬ ((∃ key value, IsKeyValue key value left) ∧
        ∃ n, lastOf Entry.payloadSize? entries = some n ∧ 0 ≤ n) := by
  have hsize : ∀ key value, lastOf Entry.payloadSize? (entries ++ [.property key value]) =
      lastOf Entry.payloadSize? entries := by
    intro key value
    rw [lastOf_append, lastOf_singleton]
    rfl
  rw [ofBytes_eq_error_iff]
  constructor
  · rintro hnone ⟨⟨key, value, hcontent⟩, n, hn, hpos⟩
    exact hnone _ ((decode_eq_ok_iff_of_cut h).2 ⟨key, value, hcontent,
      finish_meaning_eq_ok_iff.2 ⟨n, (hsize key value).trans hn, hpos, rfl⟩⟩)
  · intro hnot m hm
    obtain ⟨key, value, hcontent, hfinish⟩ := (decode_eq_ok_iff_of_cut h).1 hm
    obtain ⟨n, hn, hpos, -⟩ := finish_meaning_eq_ok_iff.1 hfinish
    exact hnot ⟨⟨key, value, hcontent⟩, n, (hsize key value).symm.trans hn, hpos⟩

/-- A payload size, and a property that declares 100 bytes where fewer are left. -/
theorem cutAfter_payloadSize {left : Bytes} (h : left.length < 100) :
    CutAfter [.payloadSize 3] left ([0x18, 0x03, 0x0A, 0x64] ++ left) := by
  have hbyte : ∀ b : UInt8, b < 0x80 → IsVarint32 b.toNat [b] := fun b hb => .last hb
  have hsize : IsInt32 3 [0x03] := ⟨3, IsVarint.last (b := 0x03) (by decide), by decide, by decide,
    by decide⟩
  have hfield : IsField (.payloadSize 3) [0x18, 0x03] :=
    ⟨3, 0, [0x18], [0x03], ⟨by decide, hbyte 0x18 (by decide)⟩, by decide, .payloadSize hsize, rfl⟩
  exact ⟨[0x0A], 100, [0x64], .step (readEntry_complete hfield _) .done,
    ⟨by decide, hbyte 0x0A (by decide)⟩, hbyte 0x64 (by decide), h⟩

/-- With a key and no value left, the cut is an error. -/
theorem cut_rejected_without_value :
    CutAfter [.payloadSize 3] [0x0A, 0x01, 0x6B] [0x18, 0x03, 0x0A, 0x64, 0x0A, 0x01, 0x6B] ∧
      (∃ reason, ofBytes [0x18, 0x03, 0x0A, 0x64, 0x0A, 0x01, 0x6B] =
        .error (.metadataDecode reason)) ∧
      ¬ ((∃ key value, IsKeyValue key value [0x0A, 0x01, 0x6B]) ∧
        ∃ n, lastOf Entry.payloadSize? [.payloadSize 3] = some n ∧ 0 ≤ n) := by
  have hcut : CutAfter [.payloadSize 3] [0x0A, 0x01, 0x6B] ([0x18, 0x03, 0x0A, 0x64] ++ _) :=
    cutAfter_payloadSize (by decide)
  have herror : ofBytes [0x18, 0x03, 0x0A, 0x64, 0x0A, 0x01, 0x6B] =
      .error (.metadataDecode "KeyValue is missing required field value") := by decide +kernel
  exact ⟨hcut, ⟨_, herror⟩, (cut_rejected_iff hcut).1 ⟨_, herror⟩⟩

/-- With a key and a value left, the record is read as if nothing were missing. -/
theorem cut_accepted_with_value :
    CutAfter [.payloadSize 3] [0x0A, 0x01, 0x6B, 0x12, 0x01, 0x76]
        [0x18, 0x03, 0x0A, 0x64, 0x0A, 0x01, 0x6B, 0x12, 0x01, 0x76] ∧
      ofBytes [0x18, 0x03, 0x0A, 0x64, 0x0A, 0x01, 0x6B, 0x12, 0x01, 0x76] =
        .ok { properties := [("k", "v")], payloadSize := 3 } ∧
      ¬ ∃ reason, ofBytes [0x18, 0x03, 0x0A, 0x64, 0x0A, 0x01, 0x6B, 0x12, 0x01, 0x76] =
        .error (.metadataDecode reason) := by
  have hread : ofBytes [0x18, 0x03, 0x0A, 0x64, 0x0A, 0x01, 0x6B, 0x12, 0x01, 0x76] =
      .ok { properties := [("k", "v")], payloadSize := 3 } := by decide +kernel
  refine ⟨cutAfter_payloadSize (by decide), hread, ?_⟩
  rintro ⟨reason, herror⟩
  rw [hread] at herror
  cases herror

end BrokerAdmin.Metadata
