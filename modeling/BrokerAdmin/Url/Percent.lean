import BrokerAdmin.Utf8

/-!
# Percent encoding

In an address a byte may stand as a percent sign with two hexadecimal digits. Which characters must
stand so depends on the place: each part of an address has its own set. A query made of names and
values has an encoding of its own, in which a plus sign is a space.

## Main definitions

* `Percent.encode`, `Percent.decode`: the encoding for a set of characters, and its inverse on bytes.
* `Percent.formEncode`, `Percent.formDecode`: the encoding of names and values.
* `Percent.pathSet`, `Percent.segmentSet`, `Percent.querySet`, …: the sets.
-/

namespace BrokerAdmin.Percent

/-- A hexadecimal digit in upper case. -/
def upperHex (n : Nat) : Char := if n < 10 then Char.ofNat (48 + n) else Char.ofNat (55 + n)

/-- The value of a hexadecimal digit. -/
def hexValue (c : Char) : Option Nat :=
  let n := c.toNat
  if 48 ≤ n && n ≤ 57 then some (n - 48)
  else if 65 ≤ n && n ≤ 70 then some (n - 55)
  else if 97 ≤ n && n ≤ 102 then some (n - 87)
  else none

/-- A byte as a percent sign with two digits. -/
def encodeByte (b : UInt8) : List Char := ['%', upperHex (b.toNat / 16), upperHex (b.toNat % 16)]

/-- One character: it stands as it is if it is an ASCII character outside of the set. -/
def encodeChar (inSet : Char → Bool) (c : Char) : List Char :=
  if c.toNat < 0x80 && !inSet c then [c] else (Utf8.encodeChar c).flatMap encodeByte

/-- Characters with those of the set and all beyond ASCII encoded. -/
def encode (inSet : Char → Bool) (cs : List Char) : List Char := cs.flatMap (encodeChar inSet)

/-- The bytes that encoded characters stand for. A percent sign without two digits stands for
itself. -/
def decode : List Char → Bytes
  | '%' :: a :: b :: rest =>
    match hexValue a, hexValue b with
    | some x, some y => UInt8.ofNat (x * 16 + y) :: decode rest
    | _, _ => 0x25 :: decode (a :: b :: rest)
  | c :: rest => Utf8.encodeChar c ++ decode rest
  | [] => []

/-! ### Sets -/

/-- The control characters of ASCII. -/
def controlSet (c : Char) : Bool := c.toNat < 0x20 || c.toNat = 0x7F

/-- What is encoded in a fragment. -/
def fragmentSet (c : Char) : Bool := controlSet c || " \"<>`".toList.contains c

/-- What is encoded in a path. -/
def pathSet (c : Char) : Bool := fragmentSet c || "#?\x7b\x7d".toList.contains c

/-- What is encoded in a user name and a password. -/
def userSet (c : Char) : Bool := pathSet c || "/:;=@[\\]^|".toList.contains c

/-- What is encoded in a segment that is added to a path, where nothing may be taken for a separator
or an encoding. -/
def segmentSet (special : Bool) (c : Char) : Bool :=
  pathSet c || c = '/' || c = '%' || (special && c = '\\')

/-- What is encoded in a query. -/
def querySet (special : Bool) (c : Char) : Bool :=
  controlSet c || " \"#<>".toList.contains c || (special && c = '\'')

/-! ### Names and values -/

/-- Whether a byte stands as it is in names and values. -/
def isFormByte (b : UInt8) : Bool :=
  (48 ≤ b && b ≤ 57) || (65 ≤ b && b ≤ 90) || (97 ≤ b && b ≤ 122) ||
    b = 0x2A || b = 0x2D || b = 0x2E || b = 0x5F

/-- One byte of a name or value. -/
def formEncodeByte (b : UInt8) : List Char :=
  if isFormByte b then [Char.ofNat b.toNat] else if b = 0x20 then ['+'] else encodeByte b

/-- A name or value. -/
def formEncode (s : String) : List Char := (Utf8.encode s).flatMap formEncodeByte

/-- The name or value that characters stand for. -/
def formDecode (cs : List Char) : String :=
  Utf8.decodeLossy (decode (cs.map fun c => if c = '+' then ' ' else c))

end BrokerAdmin.Percent
