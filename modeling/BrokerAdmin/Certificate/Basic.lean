import BrokerAdmin.Certificate.Der

/-!
# Certificates

A certificate is trusted for the name and the key that it states. Before one is added to those that
are trusted, its form is checked: that everything a certificate must state is there, and that it
makes no demand that is not understood.

The form depends on the version. Only the third version has extensions; certificates of the first
version, which do not say theirs, are taken as well.

## Main definitions

* `Certificate.isWellFormed`: whether some bytes have the form of a certificate.
-/

namespace BrokerAdmin.Certificate

open Der

/-- The signed content, the algorithm and the signature of a certificate. -/
def signedParts (bytes : Bytes) : Option (Bytes × Bytes × Bytes) := do
  let outer ← only sequenceTag bytes
  let (content, rest) ← expect sequenceTag outer
  let (algorithm, rest) ← expect sequenceTag rest
  let signature ← only bitStringTag rest
  some (content, algorithm, signature)

/-- Whether a bit string fills whole bytes. -/
def fillsBytes (bits : Bytes) : Bool := bits.head? = some 0

/-- An extension: its identifier, whether it must be understood, and its value. -/
def extension (bytes : Bytes) : Option (Bytes × Bool × Bytes) := do
  let (identifier, rest) ← expect identifierTag bytes
  let (critical, rest) ← optional booleanTag rest
  let value ← only octetStringTag rest
  match critical with
  | none => some (identifier, false, value)
  | some [0xFF] => some (identifier, true, value)
  | some [0x00] => some (identifier, false, value)
  | some _ => none

/-- The last number of the identifier of the extension that says what the key may be used for. -/
def keyUsage : UInt8 := 15

/-- The last numbers of the identifiers of the other extensions whose values are used: other names of
the subject, limits on what it may certify, limits on names, where revoked certificates are listed,
and further uses of the key. -/
def usedExtensions : List UInt8 := [17, 19, 30, 31, 37]

/-- Whether an extension is understood or may be passed over. -/
def isAcceptable : Bytes × Bool × Bytes → Bool
  | ([0x55, 0x1D, n], critical, value) =>
    if usedExtensions.contains n then (only sequenceTag value).isSome else n = keyUsage || !critical
  | (_, critical, _) => !critical

/-- Whether no used extension is given twice. -/
def areDistinct (identifiers : List Bytes) : Bool :=
  (keyUsage :: usedExtensions).all fun n => identifiers.count [0x55, 0x1D, n] ≤ 1

/-- Whether the extensions of a certificate are acceptable. There may be none. -/
def areAcceptable (bytes : Bytes) : Bool :=
  match elements bytes with
  | some items =>
    items.all (·.tag = sequenceTag) &&
      match items.mapM fun item => extension item.content with
      | some extensions =>
        extensions.all isAcceptable && areDistinct (extensions.map (·.1))
      | none => false
  | none => false

/-- Whether signed content has the form of the third version. -/
def isThirdVersion (content algorithm : Bytes) : Bool :=
  let read : Option Bytes := do
    let (version, rest) ← expect (numberedTag 0) content
    let two ← only integerTag version
    let (_, rest) ← expect integerTag rest
    let (signature, rest) ← expect sequenceTag rest
    let (_, rest) ← expect sequenceTag rest
    let (_, rest) ← expect sequenceTag rest
    let (_, rest) ← expect sequenceTag rest
    let (_, rest) ← expect sequenceTag rest
    if two = [2] && signature = algorithm then some rest else none
  match read with
  | some [] => true
  | some rest =>
    match (only (numberedTag 3) rest).bind (only sequenceTag) with
    | some extensions => areAcceptable extensions
    | none => false
  | none => false

/-- Whether signed content has the form of the first version. -/
def isFirstVersion (content : Bytes) : Bool :=
  let read : Option Bytes := do
    let (_, rest) ← expect integerTag content
    let (_, rest) ← expect sequenceTag rest
    let (_, rest) ← expect sequenceTag rest
    let (_, rest) ← expect sequenceTag rest
    let (_, rest) ← expect sequenceTag rest
    let (_, rest) ← expect sequenceTag rest
    some rest
  read = some []

/-- Whether some bytes have the form of a certificate. -/
def isWellFormed (bytes : Bytes) : Bool :=
  match signedParts bytes with
  | some (content, algorithm, signature) =>
    (isThirdVersion content algorithm && fillsBytes signature) || isFirstVersion content
  | none => false

end BrokerAdmin.Certificate
