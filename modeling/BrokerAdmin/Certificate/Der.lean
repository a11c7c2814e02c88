import BrokerAdmin.Bytes

/-!
# Distinguished encoding

A certificate is a tree of elements, each made of a tag, a length and a content. Here elements are
read one after the other; what they mean is said where they are used.

Lengths are written with as few bytes as possible, and none is greater than two bytes can say.

## Main definitions

* `Der.element`: the element at the start of some bytes.
* `Der.expect`: the same for a tag that must be there.
* `Der.elements`: all elements in a content.
-/

namespace BrokerAdmin.Der

/-- An element. -/
structure Element where
  /-- What kind of content it has. -/
  tag : UInt8
  /-- Its content. -/
  content : Bytes
  deriving DecidableEq, Repr

/-- The tags that certificates use. -/
def booleanTag : UInt8 := 0x01

@[inherit_doc booleanTag]
def integerTag : UInt8 := 0x02

@[inherit_doc booleanTag]
def bitStringTag : UInt8 := 0x03

@[inherit_doc booleanTag]
def octetStringTag : UInt8 := 0x04

@[inherit_doc booleanTag]
def identifierTag : UInt8 := 0x06

@[inherit_doc booleanTag]
def sequenceTag : UInt8 := 0x30

/-- The tag of an element that is known by its number only. -/
def numberedTag (n : UInt8) : UInt8 := 0xA0 + n

/-- The length at the start of some bytes. -/
def length : Bytes → Option (Nat × Bytes)
  | a :: rest =>
    if a < 0x80 then some (a.toNat, rest)
    else
      match rest with
      | b :: rest =>
        if a = 0x81 then if 0x80 ≤ b then some (b.toNat, rest) else none
        else
          match rest with
          | c :: rest => if a = 0x82 && b != 0 then some (b.toNat * 256 + c.toNat, rest) else none
          | [] => none
      | [] => none
  | [] => none

/-- The element at the start of some bytes. A tag takes one byte. -/
def element : Bytes → Option (Element × Bytes)
  | tag :: rest =>
    if tag &&& 0x1F = 0x1F then none
    else do
      let (n, rest) ← length rest
      let (content, rest) ← rest.splitExactly n
      some (⟨tag, content⟩, rest)
  | [] => none

/-- The content of the element of a tag that must be at the start of some bytes. -/
def expect (tag : UInt8) (bytes : Bytes) : Option (Bytes × Bytes) := do
  let (e, rest) ← element bytes
  if e.tag = tag then some (e.content, rest) else none

/-- The content of the element of a tag, if it is at the start of some bytes. -/
def optional (tag : UInt8) (bytes : Bytes) : Option (Option Bytes × Bytes) :=
  if bytes.head? = some tag then do
    let (content, rest) ← expect tag bytes
    some (some content, rest)
  else some (none, bytes)

/-- The content of the element of a tag that is all there is. -/
def only (tag : UInt8) (bytes : Bytes) : Option Bytes :=
  match expect tag bytes with
  | some (content, []) => some content
  | _ => none

/-- All elements in a content; the number bounds how many there can be. -/
def elementsUpTo : Nat → Bytes → Option (List Element)
  | _, [] => some []
  | 0, _ => none
  | n + 1, bytes => do
    let (e, rest) ← element bytes
    let elements ← elementsUpTo n rest
    some (e :: elements)

/-- All elements in a content. -/
def elements (bytes : Bytes) : Option (List Element) := elementsUpTo bytes.length bytes

end BrokerAdmin.Der
