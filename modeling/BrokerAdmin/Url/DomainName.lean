import BrokerAdmin.Unicode.Composition
import BrokerAdmin.Unicode.Direction
import BrokerAdmin.Unicode.Folding
import BrokerAdmin.Unicode.Joining
import BrokerAdmin.Url.Punycode

/-!
# Domain names

A domain name is made of labels with points between them. It is written in ASCII and in lower case: its
characters are folded and composed, and a label that still goes beyond ASCII is written in Punycode.

## What a label may be

A label beyond ASCII stands for itself when it is read again, so a label that is in Punycode already
must be what its characters would be written as. A mark must have something to stand on, the two
characters that keep letters apart or together must have such letters around them, and in a name with
any part from right to left every label must have one direction.

## Main definitions

* `DomainName.normalize`: the folded and composed form of a name.
* `DomainName.toAscii`: the written form of a name.
-/

namespace BrokerAdmin.DomainName

open Unicode

/-- What no domain name may have. -/
def isForbidden (c : Char) : Bool :=
  c.toNat ≤ 0x20 || c.toNat = 0x7F || "%#/:<>?@[\\]^|".toList.contains c

/-- The folded and composed form of a name, unless a character has no place in it. -/
def normalize (cs : List Char) : Option (List Char) := do
  let folded ← cs.mapM fold?
  let name := compose folded.flatten
  if name.any isForbidden then none else some name

/-! ### Joined writing -/

/-- Keeps letters apart. -/
def nonJoiner : Char := '\u200C'

/-- Keeps letters together. -/
def joiner : Char := '\u200D'

/-- Whether the first character that is not passed over joins on a side. -/
def joinsOn (side : Joining) (cs : List Char) : Bool :=
  match cs.dropWhile (joining · = .through) with
  | c :: _ => joining c = side || joining c = .both
  | [] => false

/-- Whether the two characters that change how letters join have such letters around them. What is in
front is given with the last character first. -/
def joinsProperly (before : List Char) : List Char → Bool
  | [] => true
  | c :: rest =>
    (if c = nonJoiner || c = joiner then
      before.head?.any (combiningClass · = vowelKiller) ||
        (c = nonJoiner && joinsOn .behind before && joinsOn .before rest)
    else true) && joinsProperly (c :: before) rest

/-! ### Direction -/

/-- Whether a character makes a name one with a part from right to left. -/
def isFromRight (c : Char) : Bool := direction c = .right || direction c = .arabicDigit

/-- Whether a character may stand inside a label of either direction. -/
def isIndifferent (c : Char) : Bool :=
  direction c = .europeanDigit || direction c = .neutral || direction c = .mark

/-- Whether a label has one direction. A label from right to left has digits of one kind. -/
def hasOneDirection (label : List Char) : Bool :=
  match label.head?.map direction, (label.reverse.dropWhile (direction · = .mark)).head?.map direction
  with
  | some .left, some last =>
    (last = .left || last = .europeanDigit) &&
      label.all fun c => direction c = .left || isIndifferent c
  | some .right, some last =>
    (last = .right || last = .europeanDigit || last = .arabicDigit) &&
      label.all (fun c => isFromRight c || isIndifferent c) &&
      !(label.any (direction · = .europeanDigit) && label.any (direction · = .arabicDigit))
  | _, _ => false

/-! ### Labels -/

/-- Whether characters may make up a label. -/
def isLabel (label : List Char) : Bool := !label.head?.any isMark && joinsProperly [] label

/-- What a label in Punycode begins with. -/
def punycodeMark : List Char := "xn--".toList

/-- The most characters that are written in Punycode, and the longest Punycode that is read. -/
def maxLabel : Nat := 1000

@[inherit_doc maxLabel]
def maxPunycode : Nat := 2000

/-- The characters that Punycode stands for, if they are written in just this way. -/
def ofPunycode (form : List Char) : Option (List Char) := do
  let label ← Punycode.decode form
  if form.length ≤ maxPunycode && label.any (0x80 ≤ ·.toNat) && label.all isFolded &&
      compose label = label && Punycode.encode label = form then some label
  else none

/-- A label as it is meant and as it is written. -/
def readLabel (label : List Char) : Option (List Char × List Char) := do
  let meant ←
    match dropFront punycodeMark label with
    | none => some label
    | some form => ofPunycode form
  if !isLabel meant then none
  else if label.all (·.toNat < 0x80) then some (meant, label)
  else if maxLabel < meant.length then none
  else some (meant, punycodeMark ++ Punycode.encode meant)

/-- The written form of a name. -/
def toAscii (cs : List Char) : Option (List Char) := do
  let name ← normalize cs
  let labels ← (splitFields '.' name).mapM readLabel
  let meant := labels.map (·.1)
  if (meant.flatten.any isFromRight) && !meant.all (fun l => l.isEmpty || hasOneDirection l) then none
  else some (joinFields '.' (labels.map (·.2)))

end BrokerAdmin.DomainName
