import BrokerAdmin.Base64
import BrokerAdmin.Proofs.Utf8

/-!
# Base64 decoded

Three bytes are cut into four digits of six bits, and four digits are put together to three bytes
again. What is left over at the end makes a group with padding, where the bits that no byte claims are
zero. The padding is no digit, so a group shows by itself how many bytes it holds.

## Main results

* `Base64.decode_encode`: the text of some bytes decodes to them.
-/

namespace BrokerAdmin.Base64

open Utf8

/-! ### Digits -/

theorem value_digit : ∀ n < 64, value (digit n) = some n := by decide

/-- The padding is no digit. -/
theorem ne_padding {c : Char} {n : Nat} (h : value c = some n) : c ≠ '=' := by
  rintro rfl
  cases h

/-! ### Groups -/

theorem decodeChars_digits {p q r s : Char} {i j k l : Nat} (hp : value p = some i)
    (hq : value q = some j) (hr : value r = some k) (hs : value s = some l) (rest : List Char) :
    decodeChars (p :: q :: r :: s :: rest) = (decodeChars rest).map fun bytes =>
      UInt8.ofNat (i * 4 + j / 16) :: UInt8.ofNat (j % 16 * 16 + k / 4) ::
        UInt8.ofNat (k % 4 * 64 + l) :: bytes := by
  cases rest with
  | nil =>
    simp only [decodeChars, hp, hq, hr, hs, if_neg (ne_padding hr), if_neg (ne_padding hs),
      Option.bind_eq_bind, Option.bind_some, Option.map_some]
  | cons c rest =>
    simp only [decodeChars, hp, hq, hr, hs, Option.bind_eq_bind, Option.bind_some]
    cases decodeChars (c :: rest) <;> rfl

/-- The first two digits of a group hold the first byte. -/
theorem first_byte (a : UInt8) {n : Nat} (h : n < 16) :
    UInt8.ofNat (a.toNat / 4 * 4 + (a.toNat % 4 * 16 + n) / 16) = a := byte_eq (by omega)

/-- The second and the third digit hold the second byte. -/
theorem second_byte (b : UInt8) (m : Nat) {n : Nat} (h : n < 4) :
    UInt8.ofNat ((m * 16 + b.toNat / 16) % 16 * 16 + (b.toNat % 16 * 4 + n) / 4) = b := by
  have hb := b.toNat_lt
  exact byte_eq (by omega)

/-- The last two digits hold the third byte. -/
theorem third_byte (c : UInt8) (m : Nat) :
    UInt8.ofNat ((m * 4 + c.toNat / 64) % 4 * 64 + c.toNat % 64) = c := by
  have hc := c.toNat_lt
  exact byte_eq (by omega)

/-- Four digits hold three bytes. -/
theorem decodeChars_three (a b c : UInt8) (rest : List Char) :
    decodeChars (digit (a.toNat / 4) :: digit (a.toNat % 4 * 16 + b.toNat / 16) ::
      digit (b.toNat % 16 * 4 + c.toNat / 64) :: digit (c.toNat % 64) :: rest) =
        (decodeChars rest).map fun bytes => a :: b :: c :: bytes := by
  have ha := a.toNat_lt
  have hb := b.toNat_lt
  have hc := c.toNat_lt
  rw [decodeChars_digits (value_digit _ (by omega)) (value_digit _ (by omega))
    (value_digit _ (by omega)) (value_digit _ (by omega)), first_byte a (by omega),
    second_byte b _ (by omega), third_byte]

/-- Three digits hold two bytes, if the bits left over are zero. -/
theorem decodeChars_two (a b : UInt8) :
    decodeChars [digit (a.toNat / 4), digit (a.toNat % 4 * 16 + b.toNat / 16),
      digit (b.toNat % 16 * 4), '='] = some [a, b] := by
  have ha := a.toNat_lt
  have hb := b.toNat_lt
  have hp := value_digit (a.toNat / 4) (by omega)
  have hq := value_digit (a.toNat % 4 * 16 + b.toNat / 16) (by omega)
  have hr := value_digit (b.toNat % 16 * 4) (by omega)
  have hleft : b.toNat % 16 * 4 % 4 = 0 := by omega
  have hsecond := second_byte b (a.toNat % 4) (n := 0) (by decide)
  rw [Nat.add_zero] at hsecond
  simp only [decodeChars, hp, hq, hr, if_neg (ne_padding hr), hleft, Option.bind_eq_bind,
    Option.bind_some, if_true, first_byte a (show b.toNat / 16 < 16 by omega), hsecond]

/-- Two digits hold one byte, if the bits left over are zero. -/
theorem decodeChars_one (a : UInt8) :
    decodeChars [digit (a.toNat / 4), digit (a.toNat % 4 * 16), '=', '='] = some [a] := by
  have ha := a.toNat_lt
  have hp := value_digit (a.toNat / 4) (by omega)
  have hq := value_digit (a.toNat % 4 * 16) (by omega)
  have hleft : a.toNat % 4 * 16 % 16 = 0 := by omega
  have hfirst := first_byte a (n := 0) (by decide)
  rw [Nat.add_zero] at hfirst
  simp only [decodeChars, hp, hq, hleft, Option.bind_eq_bind, Option.bind_some, if_true,
    decide_true, Bool.and_self, hfirst]

/-! ### Texts -/

theorem decodeChars_encodeChars (bytes : Bytes) : decodeChars (encodeChars bytes) = some bytes := by
  induction bytes using encodeChars.induct with
  | case1 => rfl
  | case2 a => exact decodeChars_one a
  | case3 a b => exact decodeChars_two a b
  | case4 a b c rest ih =>
    rw [encodeChars, decodeChars_three, ih]
    rfl

/-- **The text of some bytes decodes to them.** -/
theorem decode_encode (bytes : Bytes) : decode (encode bytes) = some bytes := by
  rw [decode, encode, String.toList_ofList]
  exact decodeChars_encodeChars bytes

example : encode (Utf8.encode "fooba") = "Zm9vYmE=" := by decide

end BrokerAdmin.Base64
