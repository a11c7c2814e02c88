/-!
# White space

Texts that people type are trimmed before they are read. The characters removed are those with the
Unicode property White_Space, which is wider than the blanks of ASCII.

## Main definitions

* `isBlank`: the property White_Space.
* `trimBlanks`: a text without blanks at its two ends.
-/

namespace BrokerAdmin

/-- The Unicode property White_Space. -/
def isBlank (c : Char) : Bool :=
  let n := c.toNat
  (9 ≤ n && n ≤ 13) || n = 0x20 || n = 0x85 || n = 0xA0 || n = 0x1680 ||
    (0x2000 ≤ n && n ≤ 0x200A) || n = 0x2028 || n = 0x2029 || n = 0x202F || n = 0x205F || n = 0x3000

/-- The characters without the blanks at the two ends. -/
def trimBlanks (cs : List Char) : List Char :=
  ((cs.dropWhile isBlank).reverse.dropWhile isBlank).reverse

/-- The text without the blanks at its two ends. -/
def trimmed (s : String) : String := String.ofList (trimBlanks s.toList)

end BrokerAdmin
