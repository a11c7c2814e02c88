import BrokerAdmin.Bytes

/-!
# UTF-8

Text travels as UTF-8 and arrives as bytes that may or may not be UTF-8. One scan serves both
readings of such bytes: it cuts them into well-formed characters and maximal ill-formed pieces. The
strict reading refuses a text that holds an ill-formed piece, the lenient one shows U+FFFD for each.

## Main definitions

* `Utf8.encode`: the bytes of a text.
* `Utf8.scan`: bytes cut into characters and ill-formed pieces.
* `Utf8.decode`: the text, if the bytes are UTF-8.
* `Utf8.decodeLossy`: the text with a replacement character for each ill-formed piece.
-/

namespace BrokerAdmin.Utf8

/-- The bytes of one character. -/
def encodeChar (c : Char) : Bytes :=
  let n := c.toNat
  if n < 0x80 then [UInt8.ofNat n]
  else if n < 0x800 then [UInt8.ofNat (0xC0 + n / 64), UInt8.ofNat (0x80 + n % 64)]
  else if n < 0x10000 then
    [UInt8.ofNat (0xE0 + n / 4096), UInt8.ofNat (0x80 + n / 64 % 64), UInt8.ofNat (0x80 + n % 64)]
  else
    [UInt8.ofNat (0xF0 + n / 262144), UInt8.ofNat (0x80 + n / 4096 % 64),
      UInt8.ofNat (0x80 + n / 64 % 64), UInt8.ofNat (0x80 + n % 64)]

/-- The bytes of a list of characters. -/
def encodeChars (cs : List Char) : Bytes := cs.flatMap encodeChar

/-- The bytes of a text. -/
def encode (s : String) : Bytes := encodeChars s.toList

/-- Whether `b` lies between `low` and `high`. -/
def within (low high b : UInt8) : Bool := low ≤ b && b ≤ high

/-- Whether `b` continues a character. -/
def isTail (b : UInt8) : Bool := within 0x80 0xBF b

/-- The bounds of the second byte of a three-byte character that starts with `lead`: they rule out
over-long forms and surrogates. -/
def second3 (lead b : UInt8) : Bool :=
  if lead = 0xE0 then within 0xA0 0xBF b
  else if lead = 0xED then within 0x80 0x9F b
  else isTail b

/-- The bounds of the second byte of a four-byte character that starts with `lead`: they rule out
over-long forms and numbers above U+10FFFF. -/
def second4 (lead b : UInt8) : Bool :=
  if lead = 0xF0 then within 0x90 0xBF b
  else if lead = 0xF4 then within 0x80 0x8F b
  else isTail b

/-- The six bits that a continuation byte carries. -/
def tailBits (b : UInt8) : Nat := b.toNat % 64

/-- Bytes cut into characters and maximal ill-formed pieces, the latter shown as `none`. A piece is
the longest start of a well-formed character that is there, or one byte if there is none. -/
def scan : Bytes → List (Option Char)
  | [] => []
  | a :: rest =>
    if a < 0x80 then some (Char.ofNat a.toNat) :: scan rest
    else if within 0xC2 0xDF a then
      match rest with
      | [] => [none]
      | b :: rest =>
        if isTail b then some (Char.ofNat (a.toNat % 32 * 64 + tailBits b)) :: scan rest
        else none :: scan (b :: rest)
    else if within 0xE0 0xEF a then
      match rest with
      | [] => [none]
      | [b] => if second3 a b then [none] else none :: scan [b]
      | b :: c :: rest =>
        if second3 a b then
          if isTail c then
            some (Char.ofNat (a.toNat % 16 * 4096 + tailBits b * 64 + tailBits c)) :: scan rest
          else none :: scan (c :: rest)
        else none :: scan (b :: c :: rest)
    else if within 0xF0 0xF4 a then
      match rest with
      | [] => [none]
      | [b] => if second4 a b then [none] else none :: scan [b]
      | [b, c] =>
        if second4 a b then
          if isTail c then [none] else none :: scan [c]
        else none :: scan [b, c]
      | b :: c :: d :: rest =>
        if second4 a b then
          if isTail c then
            if isTail d then
              some (Char.ofNat (a.toNat % 8 * 262144 + tailBits b * 4096 + tailBits c * 64
                + tailBits d)) :: scan rest
            else none :: scan (d :: rest)
          else none :: scan (c :: d :: rest)
        else none :: scan (b :: c :: d :: rest)
    else none :: scan rest

/-- All characters of a scan, if no piece of it is ill-formed. -/
def allWellFormed : List (Option Char) → Option (List Char)
  | [] => some []
  | none :: _ => none
  | some c :: rest => (allWellFormed rest).map (c :: ·)

/-- The characters that the bytes encode, if they are UTF-8 throughout. -/
def decodeChars (bytes : Bytes) : Option (List Char) := allWellFormed (scan bytes)

/-- The text that the bytes encode, if they are UTF-8 throughout. -/
def decode (bytes : Bytes) : Option String := (decodeChars bytes).map String.ofList

/-- The text of the bytes, with U+FFFD for each ill-formed piece. -/
def decodeLossy (bytes : Bytes) : String :=
  String.ofList ((scan bytes).map (·.getD '\uFFFD'))

end BrokerAdmin.Utf8
