import BrokerAdmin.Json.Document
import BrokerAdmin.Json.Value
import BrokerAdmin.Proofs.IntegerText

/-!
# JSON values as documents

What the text of a value says is known without its text: an integer is its numeral, and a string is
its text. A floating-point number is left out here, since the numeral that is printed for it is a
matter of its own.

## Main definitions

* `Numeral.ofInt`: the numeral of an integer.
* `Value.IsExact`: the values without floating-point numbers.
* `Document.ofValue`: what the text of a value says.

## Main results

* `Numeral.read_ofInt`: the numeral of an integer of 64 bits denotes it.
-/

namespace BrokerAdmin.Json

/-! ### Integers -/

/-- The value of a digit. -/
def digitValue (c : Char) : Nat := c.toNat - 48

/-- The numeral of an integer. -/
def Numeral.ofInt (n : Int) : Numeral :=
  ⟨n < 0, (Nat.toDigits 10 n.natAbs).map digitValue, none, none⟩

/-- Digits are taken in as long as the number that they denote fits. -/
theorem Numeral.absorb_map_digitValue {cs : List Char} {n : Nat}
    (h : Nat.ofDigitChars 10 cs n ≤ significandLimit) :
    absorb n (cs.map digitValue) = (Nat.ofDigitChars 10 cs n, []) := by
  induction cs generalizing n with
  | nil => rfl
  | cons c cs ih =>
    rw [Nat.ofDigitChars_cons] at h ⊢
    have hle := le_ofDigitChars (10 * n + (c.toNat - '0'.toNat)) cs
    have hfits : ¬ significandLimit < 10 * n + digitValue c := Nat.not_lt.2 (Nat.le_trans hle h)
    rw [List.map_cons, absorb, if_neg hfits]
    exact ih h

/-- **The numeral of an integer of 64 bits** denotes it. -/
theorem Numeral.read_ofInt {n : Int} (hlow : -0x8000000000000000 ≤ n)
    (hhigh : n ≤ 0xFFFFFFFFFFFFFFFF) : (Numeral.ofInt n).read = some (.int n) := by
  have hvalue : Nat.ofDigitChars 10 (Nat.toDigits 10 n.natAbs) 0 = n.natAbs :=
    Nat.ofDigitChars_ten_toDigits
  have hlimit : significandLimit = 0xFFFFFFFFFFFFFFFF := rfl
  have habsorb : absorb 0 ((Nat.toDigits 10 n.natAbs).map digitValue) = (n.natAbs, []) := by
    rw [absorb_map_digitValue (by rw [hvalue, hlimit]; omega), hvalue]
  by_cases hneg : n < 0
  · have hne : n.natAbs ≠ 0 := by omega
    have hsmall : n.natAbs ≤ 0x8000000000000000 := by omega
    have hsign : -(n.natAbs : Int) = n := by omega
    simp only [read, ofInt, habsorb, hneg, hne, hsmall, hsign, decide_true, List.isEmpty_nil,
      Bool.not_true, Bool.false_eq_true, if_true, if_false]
  · have hsign : (n.natAbs : Int) = n := by omega
    simp only [read, ofInt, habsorb, hneg, hsign, decide_false, List.isEmpty_nil, Bool.not_false,
      if_true]

/-! ### Values -/

namespace Value

mutual

/-- No number in a value is a floating-point number. -/
def IsExact : Value → Prop
  | .float _ => False
  | .array items => AreExact items
  | .object members => HaveExact members
  | _ => True

/-- No number in any of these values is one. -/
def AreExact : List Value → Prop
  | [] => True
  | item :: rest => item.IsExact ∧ AreExact rest

/-- No number in any of these members is one. -/
def HaveExact : List (String × Value) → Prop
  | [] => True
  | (_, value) :: rest => value.IsExact ∧ HaveExact rest

end

theorem haveExact_iff {members : List (String × Value)} :
    HaveExact members ↔ ∀ member ∈ members, member.2.IsExact := by
  induction members with
  | nil => simp [HaveExact]
  | cons member members ih => rw [HaveExact, ih, List.forall_mem_cons]

end Value

namespace Document

mutual

/-- What the text of a value says. Floating-point numbers are not taken into account. -/
def ofValue : Value → Document
  | .null | .float _ => .null
  | .bool b => .bool b
  | .int n => .number (.ofInt n)
  | .string s => .string (some s)
  | .array items => .array (ofItems items) none
  | .object members => .object (ofMembers members) none

/-- What the texts of items say. -/
def ofItems : List Value → List Document
  | [] => []
  | item :: rest => ofValue item :: ofItems rest

/-- What the texts of members say. -/
def ofMembers : List (String × Value) → List (Option String × Document)
  | [] => []
  | (key, value) :: rest => (some key, ofValue value) :: ofMembers rest

end

theorem ofMembers_eq_map (members : List (String × Value)) :
    ofMembers members = members.map fun member => (some member.1, ofValue member.2) := by
  induction members with
  | nil => rfl
  | cons member members ih => rw [ofMembers, ih, List.map_cons]

end Document

end BrokerAdmin.Json
