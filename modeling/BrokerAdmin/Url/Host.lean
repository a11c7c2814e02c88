import BrokerAdmin.IntegerText
import BrokerAdmin.Text
import BrokerAdmin.Url.DomainName
import BrokerAdmin.Url.Percent

/-!
# Hosts

The host of an address is a domain name, an IPv4 address, an IPv6 address in brackets, or, for schemes
that give it no meaning, any text. A domain name that ends in a number must be an IPv4 address, which
may be written with fewer than four numbers and in octal or hexadecimal.

## Main definitions

* `Url.Fault`: why a text is no address, with the wording.
* `Host.parseSpecial`, `Host.parseOther`: the host as it is written in an address.
* `Host.parseIpv4`, `Host.parseIpv6`: the forms of a host that are numbers.
-/

namespace BrokerAdmin

/-- Why a text is no address. -/
inductive Url.Fault where
  /-- It has no scheme. -/
  | relative
  /-- The host is missing. -/
  | emptyHost
  /-- The port is no number of 16 bits. -/
  | invalidPort
  /-- The text in brackets is no IPv6 address. -/
  | invalidIpv6
  /-- The host ends in a number and is no IPv4 address. -/
  | invalidIpv4
  /-- The host is no domain name. -/
  | invalidDomain
  /-- The host has a character that none may have. -/
  | invalidDomainCharacter
  deriving DecidableEq, Repr

/-- The wording of a fault. -/
def Url.Fault.message : Url.Fault → String
  | .relative => "relative URL without a base"
  | .emptyHost => "empty host"
  | .invalidPort => "invalid port number"
  | .invalidIpv6 => "invalid IPv6 address"
  | .invalidIpv4 => "invalid IPv4 address"
  | .invalidDomain => "invalid international domain name"
  | .invalidDomainCharacter => "invalid domain character"

namespace Host

open Url

/-! ### IPv4 -/

/-- The number that digits to a base denote. -/
def numberOf (base : Nat) (cs : List Char) : Option Nat :=
  cs.foldl (fun n c => do
    let n ← n
    let d ← Percent.hexValue c
    if d < base then some (n * base + d) else none) (some 0)

/-- The number that a part of an IPv4 address denotes. -/
def ipv4Number : List Char → Option Nat
  | [] => none
  | '0' :: 'x' :: cs | '0' :: 'X' :: cs => numberOf 16 cs
  | '0' :: c :: cs => numberOf 8 (c :: cs)
  | cs => numberOf 10 cs

/-- The parts of a domain name, without the empty one behind a last point. -/
def domainParts (cs : List Char) : List (List Char) :=
  let parts := splitFields '.' cs
  if parts.getLast? = some [] && 1 < parts.length then parts.dropLast else parts

/-- Whether the last part of a domain name is a number. -/
def endsInNumber (cs : List Char) : Bool :=
  match (domainParts cs).getLast? with
  | none | some [] => false
  | some last => last.all (fun c => '0' ≤ c && c ≤ '9') || (ipv4Number last).isSome

/-- The address that numbers denote: each but the last stands for one byte, and the last one for all
bytes that are left, of which there must be one. -/
def joinIpv4 : (left : Nat) → List Nat → Option Nat
  | left + 1, [n] => if n < Nat.pow 256 (left + 1) then some n else none
  | left + 1, n :: rest => do
    let low ← joinIpv4 left rest
    if n < 256 then some (n * Nat.pow 256 left + low) else none
  | _, _ => none

/-- The four bytes of an IPv4 address, with points between them. -/
def ipv4Text (n : Nat) : List Char :=
  joinFields '.' ([n / 16777216, n / 65536 % 256, n / 256 % 256, n % 256].map (Nat.toDigits 10))

/-- The IPv4 address that a domain name denotes. -/
def parseIpv4 (cs : List Char) : Except Fault (List Char) :=
  match (domainParts cs).mapM ipv4Number with
  | none => .error .invalidIpv4
  | some numbers =>
    match joinIpv4 4 numbers with
    | some n => .ok (ipv4Text n)
    | none => .error .invalidIpv4

/-! ### IPv6 -/

/-- The piece of an IPv6 address that up to four hexadecimal digits denote. -/
def ipv6Piece (cs : List Char) : Option Nat :=
  if cs.isEmpty || 4 < cs.length then none else numberOf 16 cs

/-- A part of an IPv4 address inside an IPv6 address: a decimal number without leading zeros. -/
def ipv4Byte (cs : List Char) : Option Nat := do
  let n ← if cs.isEmpty || 3 < cs.length then none else numberOf 10 cs
  if n < 256 && (cs.length = 1 || cs.head? != some '0') then some n else none

/-- The two pieces that an IPv4 address at the end of an IPv6 address gives. -/
def ipv4Pieces (cs : List Char) : Option (List Nat) :=
  match (splitFields '.' cs).mapM ipv4Byte with
  | some [a, b, c, d] => some [a * 256 + b, c * 256 + d]
  | _ => none

/-- The pieces that texts denote, the last of which may be an IPv4 address if `mayEnd` holds. -/
def ipv6Pieces (mayEnd : Bool) : List (List Char) → Option (List Nat)
  | [] => some []
  | [last] =>
    if mayEnd && last.contains '.' then ipv4Pieces last else (ipv6Piece last).map ([·])
  | cs :: rest => do
    let n ← ipv6Piece cs
    let rest ← ipv6Pieces mayEnd rest
    some (n :: rest)

/-- The texts between colons; none if there is no character. -/
def colonParts (cs : List Char) : List (List Char) :=
  if cs.isEmpty then [] else splitFields ':' cs

/-- The eight pieces that an IPv6 address denotes. Two colons stand for as many zeros as are left. -/
def ipv6Address (cs : List Char) : Option (List Nat) :=
  match splitLast [':', ':'] cs with
  | none => do
    let pieces ← ipv6Pieces true (colonParts cs)
    if pieces.length = 8 then some pieces else none
  | some (before, behind) => do
    let front ← ipv6Pieces false (colonParts before)
    let back ← ipv6Pieces true (colonParts behind)
    let count := front.length + back.length
    if count ≤ 7 then some (front ++ List.replicate (8 - count) 0 ++ back) else none

/-- The length of the run of zeros at each place. -/
def zeroRuns : List Nat → List Nat
  | [] => []
  | n :: rest =>
    let runs := zeroRuns rest
    (if n = 0 then runs.headD 0 + 1 else 0) :: runs

/-- The text of pieces with colons between them. -/
def piecesText (pieces : List Nat) : List Char := joinFields ':' (pieces.map (Nat.toDigits 16))

/-- The text of an IPv6 address: its first longest run of zeros, if it has at least two, is left
out. -/
def ipv6Text (pieces : List Nat) : List Char :=
  let runs := zeroRuns pieces
  let longest := runs.foldl max 0
  if longest < 2 then piecesText pieces
  else
    let start := runs.findIdx (· = longest)
    piecesText (pieces.take start) ++ [':', ':'] ++ piecesText (pieces.drop (start + longest))

/-- The IPv6 address in brackets that a text denotes. -/
def parseIpv6 (cs : List Char) : Except Fault (List Char) :=
  match cs.reverse with
  | ']' :: inner =>
    match ipv6Address inner.reverse with
    | some pieces => .ok ('[' :: ipv6Text pieces ++ [']'])
    | none => .error .invalidIpv6
  | _ => .error .invalidIpv6

/-! ### Hosts -/

/-- The host of an address with a special scheme. -/
def parseSpecial (cs : List Char) : Except Fault (List Char) :=
  match cs with
  | '[' :: inner => parseIpv6 inner
  | _ =>
    match Utf8.decodeChars (Percent.decode cs) with
    | none => .error .invalidDomain
    | some decoded =>
      match DomainName.toAscii decoded with
      | none => .error .invalidDomain
      | some [] => .error .emptyHost
      | some domain => if endsInNumber domain then parseIpv4 domain else .ok domain

/-- What no host of another scheme may have. -/
def forbiddenInHost (c : Char) : Bool := c.toNat = 0 || " \t\n\x0d#/:<>?@[\\]^|".toList.contains c

/-- The host of an address with another scheme. -/
def parseOther (cs : List Char) : Except Fault (List Char) :=
  match cs with
  | '[' :: inner => parseIpv6 inner
  | _ =>
    if cs.any forbiddenInHost then .error .invalidDomainCharacter
    else .ok (Percent.encode Percent.controlSet cs)

end Host

end BrokerAdmin
