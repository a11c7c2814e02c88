import BrokerAdmin.Utf8

/-!
# The wire format of metadata records

A record is a sequence of fields. A field begins with a tag that gives its number and its wire type,
which says how the value behind it is laid out: a varint, eight or four bytes, or a block with its
length in front. A varint gives a number to base 128, least significant digit first, each byte but
the last with its top bit set.

A block may lie inside another one. The length of the outer block is then a limit for the inner one,
whether or not all of its bytes are there: readers are told how many bytes the limit grants beyond
those at hand (`Room`).

## Main definitions

* `Wire.Fault`: why bytes cannot be read.
* `Wire.varint64`, `Wire.varint32`, `Wire.block`, `Wire.text`: readers, each with the rest behind it.
* `Wire.skip`: pass over a value of a wire type.
* `Wire.readAll`: read one field after the other to the end.
* `Wire.putVarint`, `Wire.putTag`, `Wire.putBlock`: writers.
-/

namespace BrokerAdmin.Wire

/-- Why bytes cannot be read. -/
inductive Fault where
  /-- The bytes end inside a value. -/
  | unexpectedEnd
  /-- A block is longer than the limit or longer than anything that is read at once. -/
  | truncated
  /-- A varint has too many bytes or too large a last one. -/
  | incorrectVarint
  /-- A text is no UTF-8. -/
  | invalidText
  /-- A number does not fit in 32 bits. -/
  | tooLarge (n : Int)
  /-- A value has a wire type that is not known. -/
  | unsupported (wireType : Nat)
  deriving DecidableEq, Repr

/-- The wording of a fault. -/
def Fault.message : Fault → String
  | .unexpectedEnd => "Unexpected EOF"
  | .truncated => "Truncated message"
  | .incorrectVarint => "Incorrect varint"
  | .invalidText => "Invalid UTF-8 sequence"
  | .tooLarge n => "Value too large for i32: " ++ toString n
  | .unsupported wireType => "unsupported wire type " ++ toString wireType

/-- How many bytes an enclosing length grants beyond those at hand; `none` where nothing encloses. -/
abbrev Room := Option Nat

/-! ### Reading -/

/-- A varint of at most `more + 1` bytes, the last of which is at most `lastMax` if all are used. -/
def varint (lastMax : UInt8) : (more : Nat) → Bytes → Except Fault (Nat × Bytes)
  | _, [] => .error .unexpectedEnd
  | 0, b :: rest => if b ≤ lastMax then .ok (b.toNat, rest) else .error .incorrectVarint
  | more + 1, b :: rest =>
    if b < 0x80 then .ok (b.toNat, rest)
    else do
      let (n, rest) ← varint lastMax more rest
      .ok (b.toNat - 128 + 128 * n, rest)

/-- A varint of 64 bits. -/
def varint64 (bytes : Bytes) : Except Fault (Nat × Bytes) := varint 1 9 bytes

/-- A varint of 32 bits, as tags and lengths are. -/
def varint32 (bytes : Bytes) : Except Fault (Nat × Bytes) := varint 0x0F 4 bytes

/-- The number of 32 bits with sign that a varint of 64 bits stands for in two's complement. -/
def int32 (bytes : Bytes) : Except Fault (Int × Bytes) := do
  let (n, rest) ← varint64 bytes
  let n : Int := if n < 0x8000000000000000 then n else (n : Int) - 0x10000000000000000
  if -0x80000000 ≤ n ∧ n < 0x80000000 then .ok (n, rest) else .error (.tooLarge n)

/-- A truth value, which any varint gives. -/
def bool (bytes : Bytes) : Except Fault (Bool × Bytes) := do
  let (n, rest) ← varint64 bytes
  .ok (n != 0, rest)

/-- The length from which on a missing block is not waited for. -/
def largeBlock : Nat := 10000000

/-- A block with its length in front. -/
def block (room : Room) (bytes : Bytes) : Except Fault (Bytes × Bytes) := do
  let (n, rest) ← varint32 bytes
  match Bytes.splitExactly n rest with
  | some parts => .ok parts
  | none =>
    if largeBlock ≤ n then .error .truncated
    else
      match room with
      | some beyond => if rest.length + beyond < n then .error .truncated else .error .unexpectedEnd
      | none => .error .unexpectedEnd

/-- A text with its length in front. -/
def text (room : Room) (bytes : Bytes) : Except Fault (String × Bytes) := do
  let (content, rest) ← block room bytes
  match Utf8.decode content with
  | some s => .ok (s, rest)
  | none => .error .invalidText

/-- A value of a fixed number of bytes. -/
def fixed (n : Nat) (bytes : Bytes) : Except Fault (Bytes × Bytes) :=
  match Bytes.splitExactly n bytes with
  | some parts => .ok parts
  | none => .error .unexpectedEnd

/-- Pass over a value of a wire type. -/
def skip (room : Room) (wireType : Nat) (bytes : Bytes) : Except Fault Bytes :=
  match wireType with
  | 0 => (varint64 bytes).map (·.2)
  | 1 => (fixed 8 bytes).map (·.2)
  | 2 => (block room bytes).map (·.2)
  | 5 => (fixed 4 bytes).map (·.2)
  | other => .error (.unsupported other)

/-- Read fields until the bytes end. The fuel bounds their number; the number of bytes is enough,
since a field has at least one, and then `stuck` is not met. -/
def readAll {ε α : Type} (stuck : ε) (readOne : Bytes → Except ε (α × Bytes)) :
    (fuel : Nat) → Bytes → Except ε (List α)
  | _, [] => .ok []
  | 0, _ :: _ => .error stuck
  | fuel + 1, b :: rest => do
    let (field, rest) ← readOne (b :: rest)
    let fields ← readAll stuck readOne fuel rest
    .ok (field :: fields)

/-! ### Writing -/

/-- A number as a varint. -/
def putVarint (n : Nat) : Bytes :=
  if n < 128 then [UInt8.ofNat n] else UInt8.ofNat (n % 128 + 128) :: putVarint (n / 128)
termination_by n

/-- The tag of a field. -/
def putTag (number wireType : Nat) : Bytes := putVarint (number * 8 + wireType)

/-- A block with its length in front. -/
def putBlock (content : Bytes) : Bytes := putVarint content.length ++ content

end BrokerAdmin.Wire
