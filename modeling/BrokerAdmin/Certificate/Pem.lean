import BrokerAdmin.Base64
import BrokerAdmin.Certificate.Basic
import BrokerAdmin.Text
import BrokerAdmin.Utf8

/-!
# Certificates in text

A file of certificates is a text in which each certificate stands in Base64 between a line that
begins and a line that ends its section. Text outside of sections is passed over, and so are sections
of other kinds. A section that is not ended or not encoded as it should makes the whole file unusable.

## Main definitions

* `Pem.sections`: the sections of a text.
* `Pem.certificates`: the certificates of a text.
-/

namespace BrokerAdmin.Pem

/-- A section: its label and what stands in it. -/
structure Section where
  /-- The label. -/
  label : Bytes
  /-- The text between the first and the last line. -/
  content : Bytes
  deriving DecidableEq, Repr

/-- The lines of a text; line feeds and carriage returns end them and belong to them. -/
def lines : Bytes → List Bytes
  | [] => []
  | b :: rest =>
    if b = 0x0A || b = 0x0D then [b] :: lines rest
    else
      match lines rest with
      | [] => [[b]]
      | line :: more => (b :: line) :: more

/-- Whether a byte at the end of a line does not count. -/
def isLineBlank (b : UInt8) : Bool := b = 0x0A || b = 0x0D || b = 0x20

/-- What remains of bytes when `front` is taken away from their start. -/
def dropBytes (front bytes : Bytes) : Option Bytes :=
  if front.isPrefixOf bytes then some (bytes.drop front.length) else none

/-- The label of a line that begins a section: `none` for another line, and `some none` for a line
that should begin a section but does not end in five dashes. -/
def beginning (line : Bytes) : Option (Option Bytes) :=
  (dropBytes (Utf8.encode "-----BEGIN ") line).map fun rest =>
    let isEnd (b : UInt8) : Bool := b = 0x2D || isLineBlank b
    let back := rest.reverse.takeWhile isEnd
    let dashes := back.reverse.dropWhile (· != 0x2D)
    if (back.filter (· = 0x2D)).length = 5 then some (rest.take (rest.length - dashes.length))
    else none

/-- Whether a line ends the section of a label. -/
def isEnding (label line : Bytes) : Bool :=
  (dropBytes (Utf8.encode "-----END " ++ label ++ Utf8.encode "-----") line).isSome

/-- The labels of sections whose content must be encoded properly. -/
def knownLabels : List Bytes :=
  ["CERTIFICATE", "PUBLIC KEY", "RSA PRIVATE KEY", "PRIVATE KEY", "EC PRIVATE KEY", "X509 CRL",
    "CERTIFICATE REQUEST", "ECHCONFIG"].map Utf8.encode

/-- The sections of a text, while one with the given label may be open. Content that is kept from a
section which another one interrupts belongs to the later one. -/
def collect : Option Bytes → Bytes → List Bytes → Option (List Section)
  | none, _, [] => some []
  | some _, _, [] => none
  | current, content, line :: rest =>
    match beginning line with
    | some none => none
    | some (some label) => collect (some label) content rest
    | none =>
      match current with
      | none => collect none content rest
      | some label =>
        if isEnding label line then do
          let sections ← collect none [] rest
          some (⟨label, content⟩ :: sections)
        else collect (some label) (content ++ line) rest

/-- The sections of a text. -/
def sections (text : Bytes) : Option (List Section) := collect none [] (lines text)

/-- Whether a byte is blank in Base64. -/
def isBlankByte (b : UInt8) : Bool := (9 ≤ b && b ≤ 13) || b = 0x20

/-- The bytes of digits of six bits. Bits that fill no byte are dropped; a digit alone in the last group
of four means nothing. -/
def ofDigits : List Nat → Option Bytes
  | [] => some []
  | [_] => none
  | [a, b] => some [UInt8.ofNat (a * 4 + b / 16)]
  | [a, b, c] => some [UInt8.ofNat (a * 4 + b / 16), UInt8.ofNat (b % 16 * 16 + c / 4)]
  | a :: b :: c :: d :: rest =>
    (ofDigits rest).map fun bytes =>
      UInt8.ofNat (a * 4 + b / 16) :: UInt8.ofNat (b % 16 * 16 + c / 4) ::
        UInt8.ofNat (c % 4 * 64 + d) :: bytes

/-- The bytes of the content of a section. Padding fills the last group of four or is missing. -/
def decode (content : Bytes) : Option Bytes := do
  let digits := content.filter (!isBlankByte ·)
  let plain := digits.takeWhile (· != 0x3D)
  let padding := digits.drop plain.length
  let values ← plain.mapM fun b => Base64.value (Char.ofNat b.toNat)
  if padding.all (· = 0x3D) && (padding.isEmpty || digits.length % 4 = 0 && padding.length ≤ 2) then
    ofDigits values
  else none

/-- The certificates of a text. -/
def certificates (text : Bytes) : Option (List Bytes) := do
  let all ← sections text
  let known ← (all.filter (knownLabels.contains ·.label)).mapM fun s =>
    (decode s.content).map (s.label, ·)
  let found := (known.filter (·.1 = Utf8.encode "CERTIFICATE")).map (·.2)
  if found.all Certificate.isWellFormed then some found else none

end BrokerAdmin.Pem
