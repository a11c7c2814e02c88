import BrokerAdmin.Binary64.Basic
import BrokerAdmin.IntegerText

/-!
# JSON numerals

A numeral is an integer if it has neither fraction nor exponent and fits in 64 bits, and a
floating-point number otherwise; `-0` counts as the latter, so that its sign is kept.

A floating-point numeral is read in two steps. Its digits are taken into a significand of 64 bits for
as long as they fit, and the rest only move the point. The significand is then rounded to double
precision and multiplied or divided by a power of ten, itself in double precision. Each step rounds,
so a numeral of many digits may come out one place beside the nearest number.

## Main definitions

* `Json.Numeral`: the parts of a numeral as written.
* `Json.Numeral.read`: the number that it denotes, if it is in range.
-/

namespace BrokerAdmin.Json

/-- A numeral as written: digits are given by their values. -/
structure Numeral where
  /-- Whether a minus sign stands in front. -/
  negative : Bool
  /-- The digits in front of the point. -/
  whole : List Nat
  /-- The digits behind the point, if there is one. -/
  fraction : Option (List Nat)
  /-- The exponent, if there is one: whether it is negative, and its digits. -/
  exponent : Option (Bool × List Nat)
  deriving DecidableEq, Repr

/-- A number that a numeral denotes. -/
inductive Number where
  /-- An integer of 64 bits, with or without sign. -/
  | int (n : Int)
  /-- A floating-point number. -/
  | float (x : Binary64)
  deriving DecidableEq, Repr

namespace Numeral

/-- The greatest significand. -/
def significandLimit : Nat := UInt64.size - 1

/-- Take digits into a significand for as long as they fit, and give what is left of them. -/
def absorb : Nat → List Nat → Nat × List Nat
  | n, [] => (n, [])
  | n, d :: ds => if significandLimit < 10 * n + d then (n, d :: ds) else absorb (10 * n + d) ds

/-- The number `x / 10 ^ k` in steps of at most `10 ^ 308`, which double precision can hold. -/
def scaleDown (x : Binary64) (k : Nat) : Binary64 :=
  if k ≤ 308 then x.div (.ofNat (Nat.pow 10 k))
  else if x.isZero then x
  else scaleDown (x.div (.ofNat (Nat.pow 10 308))) (k - 308)
termination_by k

/-- The number `significand · 10 ^ exponent`, unless it is too large. -/
def scale (negative : Bool) (significand : Nat) (exponent : Int) : Option Binary64 :=
  let x := Binary64.ofNat significand
  let x :=
    if exponent < 0 then scaleDown x (-exponent).toNat
    else if x.isZero then x
    else if exponent ≤ 308 then x.mul (.ofNat (Nat.pow 10 exponent.toNat))
    else .infinite false
  if x.isFinite then some (if negative then x.neg else x) else none

/-- The exponent that the digits denote, unless it exceeds 32 bits. -/
def smallExponent : Nat → List Nat → Option Nat
  | n, [] => some n
  | n, d :: ds => if 0x7FFFFFFF < 10 * n + d then none else smallExponent (10 * n + d) ds

/-- The number of a significand whose last digit stands for `10 ^ place`, with the written exponent. -/
def applyExponent (negative : Bool) (significand : Nat) (place : Int) :
    Option (Bool × List Nat) → Option Binary64
  | none => scale negative significand place
  | some (down, digits) =>
    match smallExponent 0 digits with
    | some n => scale negative significand (if down then place - n else place + n)
    | none => if significand = 0 || down then some (.zero negative) else none

/-- The number that the numeral denotes; `none` if it is out of range. -/
def read (numeral : Numeral) : Option Number :=
  let negative := numeral.negative
  let (significand, left) := absorb 0 numeral.whole
  match numeral.fraction, numeral.exponent with
  | none, none =>
    if left.isEmpty then
      if !negative then some (.int significand)
      else if significand = 0 then some (.float (.zero true))
      else if significand ≤ 0x8000000000000000 then some (.int (-significand))
      else some (.float (.ofInt (-significand)))
    else (scale negative significand left.length).map .float
  | fraction, exponent =>
    let digits := fraction.getD []
    let (significand, dropped) := absorb significand digits
    let place : Int := left.length - (digits.length - dropped.length : Nat)
    (applyExponent negative significand place exponent).map .float

end Numeral

end BrokerAdmin.Json
