/-!
# Binary floating point of 64 bits

Rates, loads and free JSON numbers are binary floating-point numbers of double precision. Such a
number is kept as sign, mantissa and exponent, so that arithmetic on it is arithmetic on natural
numbers: every operation works out the exact quotient and rounds it once, to the nearest number and
to the even one of two that are equally near.

## Main definitions

* `Binary64`: a number of double precision, an infinity or no number.
* `Binary64.ofRatio`: the number nearest to a quotient.
* `Binary64.ofDecimal`: the number nearest to `digits · 10 ^ exponent`.
* `Binary64.mul`, `Binary64.div`: the rounded product and quotient.
-/

namespace BrokerAdmin

/-- A floating-point number of double precision. A finite one is `mantissa · 2 ^ exponent` with the
mantissa below `2 ^ 53`; its exponent is the least one, `-1074`, unless the mantissa has 53 bits. -/
inductive Binary64 where
  /-- A finite number; zero has both signs. -/
  | finite (negative : Bool) (mantissa : Nat) (exponent : Int)
  /-- An infinity. -/
  | infinite (negative : Bool)
  /-- The result of an operation that has none. -/
  | nan
  deriving DecidableEq, Repr

namespace Binary64

/-- Zero with a sign. -/
def zero (negative : Bool) : Binary64 := .finite negative 0 (-1074)

instance : Inhabited Binary64 := ⟨zero false⟩

/-- The quotient rounded to the nearest natural number, a tie to the even one. -/
def roundQuotient (num den : Nat) : Nat :=
  let q := num / den
  let r := num % den
  if 2 * r < den then q else if den < 2 * r then q + 1 else q + q % 2

/-- The quotient `num · 2 ^ shift / den` as numerator and denominator. -/
def shiftRatio (num den : Nat) (shift : Int) : Nat × Nat :=
  if 0 ≤ shift then (num * Nat.pow 2 shift.toNat, den) else (num, den * Nat.pow 2 (-shift).toNat)

/-- The greatest `k` with `2 ^ k ≤ num / den`, for positive `num` and `den`. -/
def floorLog2 (num den : Nat) : Int :=
  let k : Int := (num.log2 : Int) - (den.log2 : Int)
  let (n, d) := shiftRatio num den (-k)
  if d ≤ n then k else k - 1

/-- The number nearest to `num / den`; an infinity beyond the greatest finite number. -/
def ofRatio (negative : Bool) (num den : Nat) : Binary64 :=
  if num = 0 then zero negative
  else
    let exponent := max (floorLog2 num den - 52) (-1074)
    let (n, d) := shiftRatio num den (-exponent)
    let mantissa := roundQuotient n d
    let (mantissa, exponent) :=
      if mantissa = Nat.pow 2 53 then (Nat.pow 2 52, exponent + 1) else (mantissa, exponent)
    if 971 < exponent then .infinite negative else .finite negative mantissa exponent

/-- The number nearest to `n`. -/
def ofNat (n : Nat) : Binary64 := ofRatio false n 1

/-- The number nearest to `n`. -/
def ofInt (n : Int) : Binary64 := ofRatio (n < 0) n.natAbs 1

/-- The number of decimal digits of `n`. -/
def digitCount (n : Nat) : Nat := (Nat.toDigits 10 n).length

/-- The number nearest to `digits · 10 ^ exponent`. Quotients that are sure to overflow or to vanish
are not worked out. -/
def ofDecimal (negative : Bool) (digits : Nat) (exponent : Int) : Binary64 :=
  let magnitude := exponent + digitCount digits
  if digits = 0 || magnitude < -400 then zero negative
  else if 400 < magnitude then .infinite negative
  else if 0 ≤ exponent then ofRatio negative (digits * Nat.pow 10 exponent.toNat) 1
  else ofRatio negative digits (Nat.pow 10 (-exponent).toNat)

/-- The number with the other sign. -/
def neg : Binary64 → Binary64
  | .finite negative m e => .finite (!negative) m e
  | .infinite negative => .infinite (!negative)
  | .nan => .nan

/-- Whether the number is a zero. -/
def isZero : Binary64 → Bool
  | .finite _ m _ => m = 0
  | _ => false

/-- Whether the number is finite. -/
def isFinite : Binary64 → Bool
  | .finite .. => true
  | _ => false

/-- The rounded product. -/
def mul : Binary64 → Binary64 → Binary64
  | .finite s m e, .finite t n f =>
    let (num, den) := shiftRatio (m * n) 1 (e + f)
    ofRatio (s != t) num den
  | .nan, _ => .nan
  | _, .nan => .nan
  | .infinite s, .infinite t => .infinite (s != t)
  | .infinite s, .finite t n _ => if n = 0 then .nan else .infinite (s != t)
  | .finite s m _, .infinite t => if m = 0 then .nan else .infinite (s != t)

/-- The rounded quotient. -/
def div : Binary64 → Binary64 → Binary64
  | .finite s m e, .finite t n f =>
    if n = 0 then (if m = 0 then .nan else .infinite (s != t))
    else
      let (num, den) := shiftRatio m n (e - f)
      ofRatio (s != t) num den
  | .nan, _ => .nan
  | _, .nan => .nan
  | .infinite _, .infinite _ => .nan
  | .infinite s, .finite t _ _ => .infinite (s != t)
  | .finite s _ _, .infinite t => zero (s != t)

end Binary64

end BrokerAdmin
