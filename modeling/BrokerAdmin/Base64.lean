import BrokerAdmin.Bytes

/-!
# Base64

Payloads are arbitrary bytes, so they stand in text as Base64 with the standard alphabet and
padding.

## Main definitions

* `Base64.encode`: the padded text of some bytes.
* `Base64.decode`: the bytes of a padded text.
-/

namespace BrokerAdmin.Base64

/-- The character of a six-bit digit. -/
def digit (n : Nat) : Char :=
  if n < 26 then Char.ofNat (65 + n)
  else if n < 52 then Char.ofNat (71 + n)
  else if n < 62 then Char.ofNat (n - 4)
  else if n = 62 then '+'
  else '/'

/-- The six-bit digit of a character. -/
def value (c : Char) : Option Nat :=
  let n := c.toNat
  if 65 ≤ n && n ≤ 90 then some (n - 65)
  else if 97 ≤ n && n ≤ 122 then some (n - 71)
  else if 48 ≤ n && n ≤ 57 then some (n + 4)
  else if c = '+' then some 62
  else if c = '/' then some 63
  else none

/-- Three bytes become four digits; one or two left over are padded with `=`. -/
def encodeChars : Bytes → List Char
  | [] => []
  | [a] => [digit (a.toNat / 4), digit (a.toNat % 4 * 16), '=', '=']
  | [a, b] =>
    [digit (a.toNat / 4), digit (a.toNat % 4 * 16 + b.toNat / 16), digit (b.toNat % 16 * 4), '=']
  | a :: b :: c :: rest =>
    digit (a.toNat / 4) :: digit (a.toNat % 4 * 16 + b.toNat / 16) ::
      digit (b.toNat % 16 * 4 + c.toNat / 64) :: digit (c.toNat % 64) :: encodeChars rest

/-- The padded text of the bytes. -/
def encode (bytes : Bytes) : String := String.ofList (encodeChars bytes)

/-- The bytes of padded Base64 characters. The bits that a padded group leaves over must be zero. -/
def decodeChars : List Char → Option Bytes
  | [] => some []
  | [p, q, r, s] => do
    let p ← value p
    let q ← value q
    if r = '=' then
      if s = '=' && q % 16 = 0 then some [UInt8.ofNat (p * 4 + q / 16)] else none
    else
      let r ← value r
      if s = '=' then
        if r % 4 = 0 then
          some [UInt8.ofNat (p * 4 + q / 16), UInt8.ofNat (q % 16 * 16 + r / 4)]
        else none
      else
        let s ← value s
        some [UInt8.ofNat (p * 4 + q / 16), UInt8.ofNat (q % 16 * 16 + r / 4),
          UInt8.ofNat (r % 4 * 64 + s)]
  | p :: q :: r :: s :: rest => do
    let p ← value p
    let q ← value q
    let r ← value r
    let s ← value s
    let rest ← decodeChars rest
    some (UInt8.ofNat (p * 4 + q / 16) :: UInt8.ofNat (q % 16 * 16 + r / 4) ::
      UInt8.ofNat (r % 4 * 64 + s) :: rest)
  | _ => none

/-- The bytes of a padded Base64 text. -/
def decode (s : String) : Option Bytes := decodeChars s.toList

end BrokerAdmin.Base64
