/-!
# Integers in text

Identifiers, counts, durations and command line numbers are decimal integers of a bounded range: an
optional sign, then digits and nothing else. A reader names the first cause that stops it, from left
to right, so a stray character met before the number grows too large is what is reported.

## Main definitions

* `IntegerRange`: the least and the greatest number of a kind, such as `IntegerRange.signed 64`.
* `IntegerFault`: why a text is no number of the range, with its wording.
* `IntegerRange.read`: the number that a text denotes.
* `intText`: the text of a number.
-/

namespace BrokerAdmin

/-- Why a text is no integer of the range asked for. -/
inductive IntegerFault where
  /-- There is no character at all. -/
  | empty
  /-- A character that is no digit, or a sign with nothing after it. -/
  | invalidDigit
  /-- The number exceeds the greatest one. -/
  | tooLarge
  /-- The number is below the least one. -/
  | tooSmall
  deriving DecidableEq, Repr

/-- The wording of a fault. -/
def IntegerFault.message : IntegerFault → String
  | .empty => "cannot parse integer from empty string"
  | .invalidDigit => "invalid digit found in string"
  | .tooLarge => "number too large to fit in target type"
  | .tooSmall => "number too small to fit in target type"

/-- The decimal digits of an integer, after a minus sign if it is negative. -/
def intChars (n : Int) : List Char :=
  if n < 0 then '-' :: Nat.toDigits 10 n.natAbs else Nat.toDigits 10 n.natAbs

/-- The decimal text of an integer. -/
def intText (n : Int) : String := String.ofList (intChars n)

/-- A range of integers. -/
structure IntegerRange where
  /-- The least number. -/
  low : Int
  /-- The greatest number. -/
  high : Int
  deriving DecidableEq, Repr

/-- The value of a decimal digit. -/
def decimalDigit (c : Char) : Option Nat :=
  if '0' ≤ c && c ≤ '9' then some (c.toNat - 48) else none

namespace IntegerRange

/-- The numbers of `bits` bits in two's complement. -/
def signed (bits : Nat) : IntegerRange := ⟨-Int.pow 2 (bits - 1), Int.pow 2 (bits - 1) - 1⟩

/-- The numbers of `bits` bits without sign. -/
def unsigned (bits : Nat) : IntegerRange := ⟨0, Int.pow 2 bits - 1⟩

/-- Whether the range holds `n`. -/
def holds (range : IntegerRange) (n : Int) : Bool := range.low ≤ n && n ≤ range.high

/-- Take more digits in behind the number `n`; `negative` says on which side of zero. -/
def readDigits (range : IntegerRange) (negative : Bool) : Int → List Char → Except IntegerFault Int
  | n, [] => .ok n
  | n, c :: cs =>
    match decimalDigit c with
    | none => .error .invalidDigit
    | some d =>
      let next := if negative then 10 * n - d else 10 * n + d
      if range.high < next then .error .tooLarge
      else if next < range.low then .error .tooSmall
      else readDigits range negative next cs

/-- The number that the characters denote. A minus sign is read only where the range has negative
numbers. -/
def readChars (range : IntegerRange) : List Char → Except IntegerFault Int
  | [] => .error .empty
  | '+' :: cs => if cs.isEmpty then .error .invalidDigit else range.readDigits false 0 cs
  | '-' :: cs =>
    if cs.isEmpty || 0 ≤ range.low then .error .invalidDigit else range.readDigits true 0 cs
  | cs => range.readDigits false 0 cs

/-- The number that a text denotes. -/
def read (range : IntegerRange) (s : String) : Except IntegerFault Int := range.readChars s.toList

end IntegerRange

end BrokerAdmin
