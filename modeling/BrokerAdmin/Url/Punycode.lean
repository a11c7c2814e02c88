/-!
# Punycode

A label of a domain name that has characters beyond ASCII is written in ASCII: first its ASCII
characters, then, behind a hyphen, the others in the order of their numbers, each as the distance from
the place of the one before. Distances are numbers to base 36 of variable length, and the thresholds
that end a number adapt to the distances seen.

## Main definitions

* `Punycode.encode`: the ASCII form of a label.
* `Punycode.decode`: the label of an ASCII form.
-/

namespace BrokerAdmin.Punycode

/-- The digit of a value: letters first, then decimal digits. -/
def digit (n : Nat) : Char := if n < 26 then Char.ofNat (97 + n) else Char.ofNat (22 + n)

/-- The value of a digit. -/
def value (c : Char) : Option Nat :=
  let n := c.toNat
  if 97 ≤ n && n ≤ 122 then some (n - 97)
  else if 65 ≤ n && n ≤ 90 then some (n - 65)
  else if 48 ≤ n && n ≤ 57 then some (n - 22)
  else none

/-- The threshold of the digit at place `k`. -/
def threshold (k bias : Nat) : Nat := if k ≤ bias + 1 then 1 else min (k - bias) 26

/-- Divide by 35 while the number is large, and count 36 for each time. -/
def shrink (fuel delta k : Nat) : Nat × Nat :=
  match fuel with
  | 0 => (delta, k)
  | fuel + 1 => if 455 < delta then shrink fuel (delta / 35) (k + 36) else (delta, k)

/-- The bias after a distance. -/
def adapt (delta count : Nat) (first : Bool) : Nat :=
  let delta := if first then delta / 700 else delta / 2
  let (delta, k) := shrink 64 (delta + delta / count) 0
  k + 36 * delta / (delta + 38)

/-- The digits of a distance. -/
def digits (fuel bias k q : Nat) : List Char :=
  match fuel with
  | 0 => []
  | fuel + 1 =>
    let t := threshold k bias
    if q < t then [digit q]
    else digit (t + (q - t) % (36 - t)) :: digits fuel bias (k + 36) ((q - t) / (36 - t))

/-- What is known while a label is encoded. -/
structure State where
  /-- The digits so far. -/
  output : List Char
  /-- The distance so far. -/
  delta : Nat
  /-- The bias. -/
  bias : Nat
  /-- The number of characters written. -/
  written : Nat

/-- Look at one character while those with the number `n` are written. -/
def step (basic n : Nat) (s : State) (c : Char) : State :=
  if c.toNat < n then { s with delta := s.delta + 1 }
  else if c.toNat = n then
    { output := s.output ++ digits 32 s.bias 36 s.delta
      delta := 0
      bias := adapt s.delta (s.written + 1) (s.written = basic)
      written := s.written + 1 }
  else s

/-- Write the characters with the numbers given, which increase; `n` is the first one not written. -/
def encodeFrom (label : List Char) (basic : Nat) : List Nat → Nat → State → State
  | [], _, s => s
  | m :: rest, n, s =>
    let s := { s with delta := s.delta + (m - n) * (s.written + 1) }
    let s := label.foldl (step basic m) s
    encodeFrom label basic rest (m + 1) { s with delta := s.delta + 1 }

/-- The ASCII form of a label that has characters beyond ASCII. -/
def encode (label : List Char) : List Char :=
  let basic := label.filter (·.toNat < 0x80)
  let others := ((label.filter (0x80 ≤ ·.toNat)).map Char.toNat).mergeSort.eraseDups
  let s := encodeFrom label basic.length others 128 ⟨[], 0, 72, basic.length⟩
  (if basic.isEmpty then [] else basic ++ ['-']) ++ s.output

/-- The distance that digits give and the digits behind it. -/
def readDistance (bias : Nat) : (k weight : Nat) → List Char → Option (Nat × List Char)
  | _, _, [] => none
  | k, weight, c :: cs => do
    let d ← value c
    let t := threshold k bias
    if d < t then some (d * weight, cs)
    else
      let (n, rest) ← readDistance bias (k + 36) (weight * (36 - t)) cs
      some (d * weight + n, rest)

/-- Put characters in at the places that distances give. -/
def decodeFrom (fuel n i bias : Nat) (first : Bool) (label : List Char) (cs : List Char) :
    Option (List Char) :=
  match fuel, cs with
  | _, [] => some label
  | 0, _ => none
  | fuel + 1, cs => do
    let (distance, rest) ← readDistance bias 36 1 cs
    let count := label.length + 1
    let n := n + (i + distance) / count
    let i := (i + distance) % count
    if 0x10FFFF < n || (0xD800 ≤ n && n ≤ 0xDFFF) then none
    else
      decodeFrom fuel n (i + 1) (adapt distance count first) false
        (label.take i ++ Char.ofNat n :: label.drop i) rest

/-- The label of an ASCII form. -/
def decode (cs : List Char) : Option (List Char) :=
  let behind := (cs.reverse.takeWhile (· != '-')).reverse
  let basic := if behind.length = cs.length then [] else cs.take (cs.length - behind.length - 1)
  let behind := if behind.length = cs.length then cs else behind
  if basic.all (·.toNat < 0x80) then decodeFrom cs.length 128 0 72 true basic behind else none

end BrokerAdmin.Punycode
