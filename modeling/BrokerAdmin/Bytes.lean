/-!
# Byte strings

Bodies, headers and metadata records are lists of octets. This module holds the few operations that
every format shares: cutting a prefix of a known length, and reading or writing a fixed-width number
in either byte order.

## Main definitions

* `Bytes`: a list of octets.
* `Bytes.splitExactly`: a prefix of exactly the length asked for, and what follows it.
* `Bytes.bigEndian`, `Bytes.ofNat32`: a number as digits to base 256, most significant first.
* `Bytes.littleEndian`: the same digits, least significant first.
-/

namespace BrokerAdmin

/-- A byte string. -/
abbrev Bytes := List UInt8

namespace Bytes

/-- The first `n` bytes and the rest, when there are as many as `n`. -/
def splitExactly (n : Nat) (bytes : Bytes) : Option (Bytes × Bytes) :=
  if (bytes.take n).length = n then some (bytes.take n, bytes.drop n) else none

theorem splitExactly_eq_some_iff {n : Nat} {bytes front rest : Bytes} :
    splitExactly n bytes = some (front, rest) ↔ bytes = front ++ rest ∧ front.length = n := by
  unfold splitExactly
  constructor
  · intro h
    split at h
    · rename_i hlen
      simp only [Option.some.injEq, Prod.mk.injEq] at h
      obtain ⟨rfl, rfl⟩ := h
      exact ⟨(List.take_append_drop n bytes).symm, hlen⟩
    · exact absurd h (by simp)
  · rintro ⟨rfl, rfl⟩
    simp

theorem splitExactly_eq_none_iff {n : Nat} {bytes : Bytes} :
    splitExactly n bytes = none ↔ bytes.length < n := by
  unfold splitExactly
  simp only [List.length_take]
  split <;> simp <;> omega

@[simp] theorem splitExactly_append (front rest : Bytes) :
    splitExactly front.length (front ++ rest) = some (front, rest) :=
  splitExactly_eq_some_iff.2 ⟨rfl, rfl⟩

/-- The number whose digits to base 256 these are, most significant first. -/
def bigEndian (bytes : Bytes) : Nat := bytes.foldl (fun n b => 256 * n + b.toNat) 0

/-- The number whose digits to base 256 these are, least significant first. -/
def littleEndian (bytes : Bytes) : Nat := bytes.foldr (fun b n => b.toNat + 256 * n) 0

/-- The four digits to base 256 of `n`, most significant first; larger numbers wrap. -/
def ofNat32 (n : Nat) : Bytes :=
  [UInt8.ofNat (n / 16777216), UInt8.ofNat (n / 65536), UInt8.ofNat (n / 256), UInt8.ofNat n]

@[simp] theorem length_ofNat32 (n : Nat) : (ofNat32 n).length = 4 := rfl

theorem bigEndian_ofNat32 {n : Nat} (h : n < 4294967296) : bigEndian (ofNat32 n) = n := by
  simp only [bigEndian, ofNat32, List.foldl_cons, List.foldl_nil, UInt8.toNat_ofNat']
  omega

end Bytes

end BrokerAdmin
