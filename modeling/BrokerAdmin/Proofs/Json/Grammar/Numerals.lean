import BrokerAdmin.Json.Document
import BrokerAdmin.Proofs.Result
import BrokerAdmin.Proofs.Utf8
import Mathlib.Data.List.TakeWhile

/-!
# The grammar of JSON numerals

The parts of a numeral follow each other here as the grammar has them: digits with no zero in front of
others, a fraction, and an exponent. The reader is shown to take such numerals off the front of a
text. A numeral is left at the first byte that could not go on with it, and this is all that must be
known of what stands behind it.

## Main definitions

* `Document.AreDigits`, `Document.IsFraction`, `Document.IsExponent`: the parts of a numeral.
* `Document.IsNumeral`: the text of a numeral behind its sign.
* `Document.Stops`: what may stand behind a numeral.

## Main results

* `Document.scanNumeral_of_isNumeral`: numerals are read.
* `Document.exists_isNumeral_of_scan`: what is read is a numeral.
-/

namespace BrokerAdmin.Json.Document

open Utf8 Result

/-! ### The parts of a numeral -/

/-- Decimal digits with their values, maybe none. -/
def AreDigits (digits : List Nat) (bytes : Bytes) : Prop :=
  (∀ d ∈ digits, d < 10) ∧ bytes = digits.map fun d => UInt8.ofNat (48 + d)

/-- The fraction of a numeral, which may be missing. -/
inductive IsFraction : Option (List Nat) → Bytes → Prop
  /-- There is none. -/
  | none : IsFraction none []
  /-- The point, and the digits behind it. -/
  | some {digits : List Nat} {bytes : Bytes} : digits ≠ [] → AreDigits digits bytes →
      IsFraction (some digits) (0x2E :: bytes)

/-- The sign of an exponent. -/
inductive IsExponentSign : Bool → Bytes → Prop
  /-- There is none. -/
  | none : IsExponentSign false []
  /-- A plus. -/
  | plus : IsExponentSign false [0x2B]
  /-- A minus. -/
  | minus : IsExponentSign true [0x2D]

/-- The exponent of a numeral, which may be missing. -/
inductive IsExponent : Option (Bool × List Nat) → Bytes → Prop
  /-- There is none. -/
  | none : IsExponent none []
  /-- The letter in lower or upper case, the sign, and the digits. -/
  | some {e : UInt8} {down : Bool} {digits : List Nat} {sign bytes : Bytes} :
      e = 0x65 ∨ e = 0x45 → IsExponentSign down sign → digits ≠ [] → AreDigits digits bytes →
      IsExponent (some (down, digits)) (e :: (sign ++ bytes))

/-- The text of a numeral behind its sign. No zero stands in front of other digits. -/
inductive IsNumeral : Numeral → Bytes → Prop
  /-- The digits in front of the point, the fraction and the exponent. -/
  | mk {negative : Bool} {whole : List Nat} {fraction : Option (List Nat)}
      {exponent : Option (Bool × List Nat)} {digits point power : Bytes} :
      whole ≠ [] → AreDigits whole digits → (whole.head? = some 0 → whole = [0]) →
      IsFraction fraction point → IsExponent exponent power →
      IsNumeral ⟨negative, whole, fraction, exponent⟩ (digits ++ (point ++ power))

/-- What may stand behind a numeral: nothing that it could go on with. -/
def Stops (rest : Bytes) : Prop :=
  ∀ b ∈ rest.head?, isDigit b = false ∧ b ≠ 0x2E ∧ b ≠ 0x65 ∧ b ≠ 0x45

/-! ### Digits -/

/-- Something begins with no digit. -/
def NoDigit (rest : Bytes) : Prop := ∀ b ∈ rest.head?, isDigit b = false

theorem noDigit_of_stops {rest : Bytes} (h : Stops rest) : NoDigit rest := fun b hb => (h b hb).1

theorem isDigit_iff {b : UInt8} : isDigit b = true ↔ 48 ≤ b.toNat ∧ b.toNat ≤ 57 := by
  simp [isDigit, UInt8.le_iff_toNat_le]

theorem ne_of_isDigit {b d : UInt8} (hb : isDigit b = true) (hd : isDigit d = false) : b ≠ d := by
  rintro rfl
  rw [hb] at hd
  cases hd

theorem isDigit_ofNat_add {d : Nat} (h : d < 10) : isDigit (UInt8.ofNat (48 + d)) = true := by
  rw [isDigit_iff, byte_toNat (by omega)]
  omega

theorem noDigit_dropWhile (bytes : Bytes) : NoDigit (bytes.dropWhile isDigit) := by
  intro b hb
  have hhead := List.head?_dropWhile_not isDigit bytes
  rw [Option.mem_def.1 hb] at hhead
  exact hhead

theorem areDigits_takeWhile (bytes : Bytes) :
    AreDigits ((bytes.takeWhile isDigit).map fun b => b.toNat - 48) (bytes.takeWhile isDigit) := by
  have hdigit : ∀ b ∈ bytes.takeWhile isDigit, 48 ≤ b.toNat ∧ b.toNat ≤ 57 := fun b hb =>
    isDigit_iff.1 (List.mem_takeWhile_imp hb)
  refine ⟨fun d hd => ?_, ?_⟩
  · obtain ⟨b, hb, rfl⟩ := List.mem_map.1 hd
    have := hdigit b hb
    omega
  · rw [List.map_map]
    refine (List.map_id _).symm.trans (List.map_congr_left fun b hb => ?_)
    have hb' := hdigit b hb
    have hvalue : 48 + (b.toNat - 48) = b.toNat := by omega
    exact (byte_eq hvalue.symm).symm

/-- **Digits are split off** up to the first byte that is none. -/
theorem splitDigits_eq_iff {bytes rest : Bytes} {digits : List Nat} :
    splitDigits bytes = (digits, rest) ↔
      ∃ front, AreDigits digits front ∧ bytes = front ++ rest ∧ NoDigit rest := by
  rw [splitDigits, Prod.mk.injEq]
  constructor
  · rintro ⟨rfl, rfl⟩
    exact ⟨_, areDigits_takeWhile bytes, (List.takeWhile_append_dropWhile).symm,
      noDigit_dropWhile bytes⟩
  · rintro ⟨front, ⟨hsmall, rfl⟩, rfl, hrest⟩
    have hfront : ∀ b ∈ digits.map fun d => UInt8.ofNat (48 + d), isDigit b = true := by
      intro b hb
      obtain ⟨d, hd, rfl⟩ := List.mem_map.1 hb
      exact isDigit_ofNat_add (hsmall d hd)
    have htake : rest.takeWhile isDigit = [] ∧ rest.dropWhile isDigit = rest := by
      cases rest with
      | nil => exact ⟨rfl, rfl⟩
      | cons b rest =>
        have hb : ¬ isDigit b = true := by simp [hrest b rfl]
        exact ⟨List.takeWhile_cons_of_neg hb, List.dropWhile_cons_of_neg hb⟩
    rw [List.takeWhile_append_of_pos hfront, List.dropWhile_append_of_pos hfront, htake.1, htake.2,
      List.append_nil, List.map_map]
    refine ⟨(List.map_congr_left fun d hd => ?_).trans (List.map_id _), rfl⟩
    have := hsmall d hd
    rw [Function.comp_apply, byte_toNat (by omega), id, Nat.add_sub_cancel_left]

/-! ### Fractions and exponents -/

/-- A fraction is read where no other digit and no other point follows. -/
theorem scanFraction_of_isFraction {fraction : Option (List Nat)} {front rest : Bytes}
    (h : IsFraction fraction front) (hdigit : NoDigit rest) (hpoint : rest.head? ≠ some 0x2E) :
    scanFraction (front ++ rest) = .ok (fraction, rest) := by
  cases h with
  | none =>
    rw [List.nil_append, scanFraction.eq_def]
    split
    · exact absurd rfl hpoint
    · rfl
  | @some digits bytes hne hdigits =>
    have hsplit : splitDigits (bytes ++ rest) = (digits, rest) :=
      splitDigits_eq_iff.2 ⟨bytes, hdigits, rfl, hdigit⟩
    rw [List.cons_append, scanFraction, hsplit]
    simp [hne]

theorem exists_isFraction_of_scan {fraction : Option (List Nat)} {bytes rest : Bytes}
    (h : scanFraction bytes = .ok (fraction, rest)) :
    ∃ front, IsFraction fraction front ∧ bytes = front ++ rest := by
  rw [scanFraction.eq_def] at h
  split at h
  · next tail =>
    rcases hsplit : splitDigits tail with ⟨digits, left⟩
    rw [hsplit] at h
    dsimp only at h
    split at h
    · cases h
    · next hne =>
      obtain ⟨rfl, rfl⟩ := Prod.mk.inj (Except.ok.inj h)
      obtain ⟨front, hdigits, rfl, -⟩ := splitDigits_eq_iff.1 hsplit
      exact ⟨_, .some (by simpa using hne) hdigits, rfl⟩
  · obtain ⟨rfl, rfl⟩ := Prod.mk.inj (Except.ok.inj h)
    exact ⟨[], .none, rfl⟩

/-- The digits of an exponent begin with no sign. -/
theorem exists_cons_of_areDigits {digits : List Nat} {bytes : Bytes} (h : AreDigits digits bytes)
    (hne : digits ≠ []) : ∃ b tail, bytes = b :: tail ∧ isDigit b = true := by
  obtain ⟨hsmall, rfl⟩ := h
  cases digits with
  | nil => exact absurd rfl hne
  | cons d digits =>
    exact ⟨_, _, rfl, isDigit_ofNat_add (hsmall d List.mem_cons_self)⟩

/-- Whether a minus stands at the start of a text, and the text behind a sign there. -/
def splitSign : Bytes → Bool × Bytes
  | 0x2B :: rest => (false, rest)
  | 0x2D :: rest => (true, rest)
  | rest => (false, rest)

theorem splitSign_of_isExponentSign {down : Bool} {sign : Bytes} (h : IsExponentSign down sign)
    {b : UInt8} (hb : isDigit b = true) (rest : Bytes) :
    splitSign (sign ++ b :: rest) = (down, b :: rest) := by
  cases h with
  | none =>
    rw [List.nil_append, splitSign]
    · exact fun _ heq => ne_of_isDigit hb (d := 0x2B) rfl (List.cons.inj heq).1
    · exact fun _ heq => ne_of_isDigit hb (d := 0x2D) rfl (List.cons.inj heq).1
  | plus => rfl
  | minus => rfl

theorem exists_isExponentSign (bytes : Bytes) :
    ∃ sign, IsExponentSign (splitSign bytes).1 sign ∧ bytes = sign ++ (splitSign bytes).2 := by
  fun_cases splitSign bytes with
  | case1 rest => exact ⟨[0x2B], .plus, rfl⟩
  | case2 rest => exact ⟨[0x2D], .minus, rfl⟩
  | case3 => exact ⟨[], .none, rfl⟩

/-- An exponent behind its letter. -/
theorem scanExponent_cons {e : UInt8} (he : e = 0x65 ∨ e = 0x45) (bytes : Bytes) :
    scanExponent (e :: bytes) =
      if (splitDigits (splitSign bytes).2).1.isEmpty then
        .error (missingDigit (splitDigits (splitSign bytes).2).2)
      else .ok (some ((splitSign bytes).1, (splitDigits (splitSign bytes).2).1),
        (splitDigits (splitSign bytes).2).2) := by
  have he' : (e = 0x65 || e = 0x45) = true := by simpa using he
  rw [scanExponent.eq_def]
  exact if_pos he'

theorem scanExponent_of_stops {rest : Bytes} (h : Stops rest) :
    scanExponent rest = .ok (none, rest) := by
  cases rest with
  | nil => rfl
  | cons b rest =>
    obtain ⟨-, -, he, hE⟩ := h b rfl
    rw [scanExponent.eq_def]
    exact if_neg (by simp [he, hE])

theorem scanExponent_of_isExponent {exponent : Option (Bool × List Nat)} {front rest : Bytes}
    (h : IsExponent exponent front) (hrest : Stops rest) :
    scanExponent (front ++ rest) = .ok (exponent, rest) := by
  cases h with
  | none => exact scanExponent_of_stops hrest
  | @some e down digits sign bytes he hsign hne hdigits =>
    have hsplit : splitDigits (bytes ++ rest) = (digits, rest) :=
      splitDigits_eq_iff.2 ⟨bytes, hdigits, rfl, noDigit_of_stops hrest⟩
    obtain ⟨b, tail, rfl, hb⟩ := exists_cons_of_areDigits hdigits hne
    rw [List.cons_append] at hsplit
    rw [List.cons_append, List.append_assoc, List.cons_append, scanExponent_cons he,
      splitSign_of_isExponentSign hsign hb, hsplit]
    simp [hne]

theorem exists_isExponent_of_scan {exponent : Option (Bool × List Nat)} {bytes rest : Bytes}
    (h : scanExponent bytes = .ok (exponent, rest)) :
    ∃ front, IsExponent exponent front ∧ bytes = front ++ rest := by
  cases bytes with
  | nil =>
    obtain ⟨rfl, rfl⟩ := Prod.mk.inj (Except.ok.inj h)
    exact ⟨[], .none, rfl⟩
  | cons e tail =>
    by_cases he : e = 0x65 ∨ e = 0x45
    · rw [scanExponent_cons he] at h
      split at h
      · cases h
      · next hne =>
        obtain ⟨rfl, rfl⟩ := Prod.mk.inj (Except.ok.inj h)
        obtain ⟨sign, hsign, htail⟩ := exists_isExponentSign tail
        obtain ⟨front, hfront, hleft, -⟩ := splitDigits_eq_iff.1 (Prod.eta (splitDigits _)).symm
        refine ⟨_, .some he hsign (by simpa using hne) hfront, ?_⟩
        rw [List.cons_append, List.append_assoc, ← hleft, ← htail]
    · rw [scanExponent.eq_def] at h
      dsimp only at h
      rw [if_neg (by simpa using he)] at h
      obtain ⟨rfl, rfl⟩ := Prod.mk.inj (Except.ok.inj h)
      exact ⟨[], .none, rfl⟩

/-! ### Numerals -/

/-- What stands behind the digits in front of the point begins with none. -/
theorem noDigit_of_isExponent {exponent : Option (Bool × List Nat)} {front rest : Bytes}
    (h : IsExponent exponent front) (hrest : Stops rest) :
    NoDigit (front ++ rest) ∧ (front ++ rest).head? ≠ some 0x2E := by
  cases h with
  | none => exact ⟨noDigit_of_stops hrest, fun hhead => (hrest _ hhead).2.1 rfl⟩
  | some he =>
    rcases he with rfl | rfl
    · exact ⟨fun b hb => by obtain rfl := Option.some.inj hb; rfl, by simp⟩
    · exact ⟨fun b hb => by obtain rfl := Option.some.inj hb; rfl, by simp⟩

theorem noDigit_of_isFraction {fraction : Option (List Nat)} {front rest : Bytes}
    (h : IsFraction fraction front) (hrest : NoDigit rest) : NoDigit (front ++ rest) := by
  cases h with
  | none => exact hrest
  | some => exact fun b hb => by obtain rfl := Option.some.inj hb; rfl

/-- The digits in front of the point, when they are not refused. -/
theorem scanNumeral_eq (negative : Bool) {bytes rest : Bytes} {whole : List Nat}
    (h : splitDigits bytes = (whole, rest)) (hne : whole ≠ [])
    (hzero : whole.head? = some 0 → whole = [0]) :
    scanNumeral negative bytes = (do
      let (fraction, rest) ← scanFraction rest
      let (exponent, rest) ← scanExponent rest
      .ok (⟨negative, whole, fraction, exponent⟩, rest)) := by
  rw [scanNumeral, h]
  dsimp only
  split
  · exact absurd rfl hne
  · next d digits => exact absurd (hzero rfl) (by simp)
  · rfl

/-- **Numerals are read**, where nothing follows that they could go on with. -/
theorem scanNumeral_of_isNumeral {numeral : Numeral} {front rest : Bytes}
    (h : IsNumeral numeral front) (hrest : Stops rest) :
    scanNumeral numeral.negative (front ++ rest) = .ok (numeral, rest) := by
  cases h with
  | @mk negative whole fraction exponent digits point power hne hdigits hzero hfraction hexponent =>
    obtain ⟨hpower, hpoint⟩ := noDigit_of_isExponent hexponent hrest
    have hsplit : splitDigits (digits ++ (point ++ (power ++ rest))) =
        (whole, point ++ (power ++ rest)) :=
      splitDigits_eq_iff.2 ⟨digits, hdigits, rfl, noDigit_of_isFraction hfraction hpower⟩
    rw [List.append_assoc, List.append_assoc, scanNumeral_eq _ hsplit hne hzero,
      scanFraction_of_isFraction hfraction hpower hpoint, ok_bind]
    dsimp only
    rw [scanExponent_of_isExponent hexponent hrest, ok_bind]

/-- **What is read is a numeral** with the sign that has been read. -/
theorem exists_isNumeral_of_scan {negative : Bool} {numeral : Numeral} {bytes rest : Bytes}
    (h : scanNumeral negative bytes = .ok (numeral, rest)) :
    numeral.negative = negative ∧ ∃ front, IsNumeral numeral front ∧ bytes = front ++ rest := by
  rcases hsplit : splitDigits bytes with ⟨whole, left⟩
  have hwhole : whole ≠ [] ∧ (whole.head? = some 0 → whole = [0]) := by
    rw [scanNumeral, hsplit] at h
    dsimp only at h
    split at h
    · cases h
    · cases h
    · next hnil hzero =>
      refine ⟨hnil, fun hhead => ?_⟩
      obtain ⟨digits, rfl⟩ := List.head?_eq_some_iff.1 hhead
      cases digits with
      | nil => rfl
      | cons d digits => exact absurd rfl (hzero d digits)
  rw [scanNumeral_eq _ hsplit hwhole.1 hwhole.2] at h
  obtain ⟨⟨fraction, left'⟩, hfraction, h⟩ := bind_eq_ok_iff.1 h
  obtain ⟨⟨exponent, left''⟩, hexponent, h⟩ := bind_eq_ok_iff.1 h
  obtain ⟨rfl, rfl⟩ := Prod.mk.inj (Except.ok.inj h)
  obtain ⟨digits, hdigits, rfl, -⟩ := splitDigits_eq_iff.1 hsplit
  obtain ⟨point, hpoint, rfl⟩ := exists_isFraction_of_scan hfraction
  obtain ⟨power, hpower, rfl⟩ := exists_isExponent_of_scan hexponent
  exact ⟨rfl, _, .mk hwhole.1 hdigits hwhole.2 hpoint hpower, by simp⟩

end BrokerAdmin.Json.Document
