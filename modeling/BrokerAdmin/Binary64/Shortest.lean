import BrokerAdmin.Binary64.Basic

/-!
# Shortest decimal texts

A finite number is written with the fewest digits that read back as the same number; of several such
decimals the nearest one counts, and of two that are equally near the even one.

The numbers that read back as `m · 2 ^ e` form an interval around it, which reaches halfway to its
two neighbours and holds its ends exactly if `m` is even. For one digit, two digits and so on, the
grid of decimals with that many digits has a point in the interval if and only if one of the two
grid points around the number is in it, so only those two are looked at.

## Main definitions

* `Binary64.shortest`: the digits and the decimal exponent.
* `Binary64.toText`: positional notation for moderate exponents, scientific notation for the rest.
* `Binary64.ofText`: the number nearest to a decimal text.
-/

namespace BrokerAdmin.Binary64

/-- The least `k` with `den ≤ num · 10 ^ k`, if it is at most `fuel`. -/
def stepsUp (fuel num den : Nat) : Nat :=
  match fuel with
  | 0 => 0
  | fuel + 1 => if den ≤ num then 0 else stepsUp fuel (num * 10) den + 1

/-- The exponent of the first decimal digit of `num / den`. -/
def floorLog10 (num den : Nat) : Int :=
  if den ≤ num then (digitCount (num / den) : Int) - 1 else -(stepsUp 400 num den : Int)

/-- Drop the trailing zeros of `digits`, at most `fuel` of them, and count them in the exponent. -/
def dropZeros (fuel digits : Nat) (exponent : Int) : Nat × Int :=
  match fuel with
  | 0 => (digits, exponent)
  | fuel + 1 =>
    if digits % 10 = 0 then dropZeros fuel (digits / 10) (exponent + 1) else (digits, exponent)

/-- The first grid, from `count` digits on, that has a point which reads back. The number is
`value`, its interval reaches from `low` to `high`, all three in units of `num / den`; `closed` says
whether the interval holds its ends. -/
def firstGrid (fuel : Nat) (num den value low high : Nat) (closed : Bool) (grid : Int) : Nat × Int :=
  let (unit, scale) :=
    if 0 ≤ grid then (den * Nat.pow 10 grid.toNat, num) else (den, num * Nat.pow 10 (-grid).toNat)
  let below := value * scale / unit
  let lowHit := if closed then low * scale ≤ below * unit else low * scale < below * unit
  let highHit :=
    if closed then (below + 1) * unit ≤ high * scale else (below + 1) * unit < high * scale
  let nearer :=
    if 2 * (value * scale) < (2 * below + 1) * unit then below
    else if (2 * below + 1) * unit < 2 * (value * scale) then below + 1
    else below + below % 2
  match fuel with
  | 0 => (nearer, grid)
  | fuel + 1 =>
    if lowHit && highHit then (nearer, grid)
    else if lowHit then (below, grid)
    else if highHit then (below + 1, grid)
    else firstGrid fuel num den value low high closed (grid - 1)

/-- The fewest digits, without trailing zeros, and the exponent of the last one, that read back as
the positive number `m · 2 ^ e`. -/
def shortest (m : Nat) (e : Int) : Nat × Int :=
  let (num, den) := shiftRatio 1 1 (e - 2)
  let low := if m = Nat.pow 2 52 && -1074 < e then 4 * m - 1 else 4 * m - 2
  let (digits, grid) :=
    firstGrid 17 num den (4 * m) low (4 * m + 2) (m % 2 = 0) (floorLog10 (4 * m * num) den)
  dropZeros 20 digits grid

/-- Digits with a point, or in scientific notation: positional when the first digit stands between
the fifth place after the point and the sixteenth before it, with at least one place after the
point. -/
def layOut (digits : List Char) (exponent : Int) : List Char :=
  let count := digits.length
  let first := exponent + count - 1
  if -5 ≤ first && first < 16 then
    if first < 0 then '0' :: '.' :: (List.replicate (-first - 1).toNat '0' ++ digits)
    else
      let places := (first + 1).toNat
      if count ≤ places then digits ++ List.replicate (places - count) '0' ++ ['.', '0']
      else digits.take places ++ '.' :: digits.drop places
  else
    let tail := digits.drop 1
    let sign := if first < 0 then ['e', '-'] else ['e', '+']
    digits.take 1 ++ (if tail.isEmpty then [] else '.' :: tail) ++ sign ++
      Nat.toDigits 10 first.natAbs

/-- The text of a finite number; the others have none. -/
def toText : Binary64 → Option String
  | .finite negative m e =>
    let sign := if negative then ['-'] else []
    if m = 0 then some (String.ofList (sign ++ ['0', '.', '0']))
    else
      let (digits, exponent) := shortest m e
      some (String.ofList (sign ++ layOut (Nat.toDigits 10 digits) exponent))
  | _ => none

/-- The digits at the start of a text, as their values, and the rest. -/
def splitDigits (cs : List Char) : List Nat × List Char :=
  ((cs.takeWhile (fun c => '0' ≤ c && c ≤ '9')).map (fun c => c.toNat - 48),
    cs.dropWhile (fun c => '0' ≤ c && c ≤ '9'))

/-- The number that decimal digits denote. -/
def natOfDigits (digits : List Nat) : Nat := digits.foldl (fun n d => 10 * n + d) 0

/-- The exponent at the end of a decimal text: nothing, or a mark, a sign and digits. -/
def readExponent : List Char → Option Int
  | [] => some 0
  | c :: cs =>
    if c = 'e' || c = 'E' then
      let (negative, cs) := match cs with
        | '+' :: cs => (false, cs)
        | '-' :: cs => (true, cs)
        | cs => (false, cs)
      match splitDigits cs with
      | (d :: ds, []) =>
        let n : Int := natOfDigits (d :: ds)
        some (if negative then -n else n)
      | _ => none
    else none

/-- The number of an unsigned decimal text, with digits before or after the point. -/
def readUnsigned (negative : Bool) (cs : List Char) : Option Binary64 :=
  let (whole, rest) := splitDigits cs
  let (fraction, rest) := match rest with
    | '.' :: rest => splitDigits rest
    | rest => ([], rest)
  if whole.isEmpty && fraction.isEmpty then none
  else (readExponent rest).map fun exponent =>
    ofDecimal negative (natOfDigits (whole ++ fraction)) (exponent - fraction.length)

/-- The number nearest to a decimal text: an optional sign, then digits with an optional point and an
optional exponent, or the name of an infinity or of no number in any case. -/
def ofText (s : String) : Option Binary64 :=
  let (negative, cs) := match s.toList with
    | '+' :: cs => (false, cs)
    | '-' :: cs => (true, cs)
    | cs => (false, cs)
  let name := cs.map Char.toLower
  if name = "inf".toList || name = "infinity".toList then some (.infinite negative)
  else if name = "nan".toList then some .nan
  else readUnsigned negative cs

end BrokerAdmin.Binary64
