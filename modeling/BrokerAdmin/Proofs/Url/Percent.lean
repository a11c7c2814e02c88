import BrokerAdmin.Proofs.Utf8
import BrokerAdmin.Url.Percent

/-!
# Percent encoding can be undone

A percent sign with two digits is a byte, so what is encoded is read back as long as the percent sign
itself is encoded. Apart from the percent sign and digits, no character of the set is written.

## Main results

* `Percent.decode_encode`: encoded characters are decoded to their bytes.
* `Percent.mem_encode`: which characters are written.
-/

namespace BrokerAdmin.Percent

/-! ### Digits -/

theorem hexValue_upperHex {n : Nat} (h : n < 16) : hexValue (upperHex n) = some n := by
  revert n
  decide

theorem upperHex_mem {n : Nat} (h : n < 16) : upperHex n ∈ "0123456789ABCDEF".toList := by
  revert n
  decide

/-! ### Decoding -/

theorem decode_encodeByte (b : UInt8) (rest : List Char) :
    decode (encodeByte b ++ rest) = b :: decode rest := by
  have hb := b.toNat_lt
  have hhigh : b.toNat / 16 < 16 := by omega
  have hlow : b.toNat % 16 < 16 := by omega
  have hvalue : b.toNat / 16 * 16 + b.toNat % 16 = b.toNat := by omega
  change decode ('%' :: upperHex (b.toNat / 16) :: upperHex (b.toNat % 16) :: rest) = _
  rw [decode, hexValue_upperHex hhigh, hexValue_upperHex hlow]
  simp only [hvalue, UInt8.ofNat_toNat]

theorem decode_encodeBytes (bytes : Bytes) (rest : List Char) :
    decode (bytes.flatMap encodeByte ++ rest) = bytes ++ decode rest := by
  induction bytes with
  | nil => rfl
  | cons b bytes ih => rw [List.flatMap_cons, List.append_assoc, decode_encodeByte, ih]; rfl

theorem decode_cons_of_ne {c : Char} (h : c ≠ '%') (rest : List Char) :
    decode (c :: rest) = Utf8.encodeChar c ++ decode rest := by
  rw [decode]
  rintro _ _ _ rfl
  exact absurd rfl h

theorem decode_encodeChar {inSet : Char → Bool} (h : inSet '%' = true) (c : Char)
    (rest : List Char) : decode (encodeChar inSet c ++ rest) = Utf8.encodeChar c ++ decode rest := by
  rw [encodeChar]
  split
  · next hkept =>
    have hne : c ≠ '%' := by
      rintro rfl
      simp [h] at hkept
    exact decode_cons_of_ne hne rest
  · exact decode_encodeBytes _ rest

/-- **Encoded characters are decoded to their bytes**, if the percent sign is encoded. -/
theorem decode_encode {inSet : Char → Bool} (h : inSet '%' = true) (cs : List Char) :
    decode (encode inSet cs) = Utf8.encodeChars cs := by
  induction cs with
  | nil => rfl
  | cons c cs ih =>
    change decode (encodeChar inSet c ++ encode inSet cs) = _
    rw [decode_encodeChar h, ih]
    rfl

/-! ### What is written -/

theorem mem_encodeByte {b : UInt8} {c : Char} (h : c ∈ encodeByte b) :
    c = '%' ∨ c ∈ "0123456789ABCDEF".toList := by
  have hlt := b.toNat_lt
  rw [encodeByte, List.mem_cons, List.mem_cons, List.mem_singleton] at h
  rcases h with rfl | rfl | rfl
  · exact .inl rfl
  · exact .inr (upperHex_mem (by omega))
  · exact .inr (upperHex_mem (by omega))

/-- Only the percent sign, digits and the given characters outside of the set are written. -/
theorem mem_encode {inSet : Char → Bool} {cs : List Char} {c : Char} (h : c ∈ encode inSet cs) :
    (c ∈ cs ∧ inSet c = false) ∨ c = '%' ∨ c ∈ "0123456789ABCDEF".toList := by
  obtain ⟨d, hmem, hd⟩ := List.mem_flatMap.1 h
  rw [encodeChar] at hd
  split at hd
  · next hkept =>
    obtain rfl := List.mem_singleton.1 hd
    simp only [Bool.and_eq_true, Bool.not_eq_true'] at hkept
    exact .inl ⟨hmem, hkept.2⟩
  · obtain ⟨b, -, hb⟩ := List.mem_flatMap.1 hd
    exact .inr (mem_encodeByte hb)

end BrokerAdmin.Percent
