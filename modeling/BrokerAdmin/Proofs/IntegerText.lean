import BrokerAdmin.Blank
import BrokerAdmin.IntegerText
import Mathlib.Data.List.TakeWhile

/-!
# Integers read back from their text

The text of an integer is read digit by digit, and after each digit the number so far must lie in
the range. Numbers only move away from zero, so for a range around zero it is enough that the whole
number lies in it.

## Main definitions

* `withSign`: the integer of a given size on one side of zero.
* `IsNumeral`: the decimal digits of a number.
* `IsSignedNumeral`: the digits of an integer, behind a sign or not.
* `IsUnsignedNumeral`: the digits of a number, behind a plus sign or not.

## Main results

* `IntegerRange.readDigits_of_isDigit`: the number that digits denote.
* `IntegerRange.readChars_intChars`: an integer of the range reads back.
* `IntegerRange.readChars_eq_ok_iff`: which characters denote an integer of the range;
  `IntegerRange.readChars_unsigned_eq_ok_iff` where there are no negative ones.
* `IsNumeral.eq_toDigits_iff`: which numerals are those that numbers are written as.
* `trimBlanks_of_not_blank`: what has no blanks stays as it is when it is trimmed.
* `trimBlanks_append`: blanks around a text do not count.
* `trimBlanks_eq_iff`: what is left of a text when it is trimmed.
-/

namespace BrokerAdmin

/-- The integer of size `n` on one side of zero. -/
def withSign (negative : Bool) (n : Nat) : Int := if negative then -n else n

/-- The decimal digits of a number. Zeros in front do not count. -/
structure IsNumeral (n : Nat) (cs : List Char) : Prop where
  /-- There is a digit. -/
  ne_nil : cs ≠ []
  /-- There is nothing else. -/
  isDigit : ∀ c ∈ cs, c.isDigit
  /-- The digits denote the number. -/
  value : Nat.ofDigitChars 10 cs 0 = n

/-- The decimal digits of the size of an integer, behind a minus sign, a plus sign or none. A minus
sign may stand in front of zero. -/
inductive IsSignedNumeral : Int → List Char → Prop
  /-- Digits alone. -/
  | bare {n : Nat} {digits : List Char} : IsNumeral n digits → IsSignedNumeral n digits
  /-- A plus sign in front. -/
  | plus {n : Nat} {digits : List Char} : IsNumeral n digits → IsSignedNumeral n ('+' :: digits)
  /-- A minus sign in front. -/
  | minus {n : Nat} {digits : List Char} : IsNumeral n digits → IsSignedNumeral (-n) ('-' :: digits)

/-- The decimal digits of a number, behind a plus sign or none. -/
def IsUnsignedNumeral (n : Nat) (cs : List Char) : Prop :=
  ∃ digits, IsNumeral n digits ∧ (cs = digits ∨ cs = '+' :: digits)

theorem decimalDigit_of_isDigit {c : Char} (h : c.isDigit) :
    decimalDigit c = some (c.toNat - 48) := by
  rw [Char.isDigit_iff_toNat] at h
  have hlow : '0' ≤ c := h.1
  have hhigh : c ≤ '9' := h.2
  simp [decimalDigit, hlow, hhigh]

theorem decimalDigit_eq_some_iff {c : Char} {d : Nat} :
    decimalDigit c = some d ↔ c.isDigit ∧ d = c.toNat - 48 := by
  constructor
  · intro h
    have hdigit : c.isDigit := by
      rw [decimalDigit] at h
      split at h
      · next hc =>
        have hc' : '0' ≤ c ∧ c ≤ '9' := by simpa using hc
        exact Char.isDigit_iff_toNat.2 hc'
      · cases h
    rw [decimalDigit_of_isDigit hdigit] at h
    exact ⟨hdigit, (Option.some.inj h).symm⟩
  · rintro ⟨h, rfl⟩
    exact decimalDigit_of_isDigit h

/-- More digits give a greater number. -/
theorem le_ofDigitChars (n : Nat) (cs : List Char) : n ≤ Nat.ofDigitChars 10 cs n := by
  induction cs generalizing n with
  | nil => simp
  | cons c cs ih =>
    rw [Nat.ofDigitChars_cons]
    exact Nat.le_trans (by omega) (ih _)

/-- One more digit behind a number moves it away from zero. -/
theorem step_withSign (negative : Bool) (n d : Nat) :
    (if negative then 10 * withSign negative n - (d : Int)
      else 10 * withSign negative n + (d : Int)) = withSign negative (10 * n + d) := by
  cases negative <;> simp only [withSign, if_true, Bool.false_eq_true, if_false] <;> omega

theorem isDigit_of_mem_toDigits {n : Nat} {c : Char} (h : c ∈ Nat.toDigits 10 n) : c.isDigit :=
  Nat.isDigit_of_mem_toDigits (by decide) (by decide) h

theorem isNumeral_toDigits (n : Nat) : IsNumeral n (Nat.toDigits 10 n) :=
  ⟨Nat.toDigits_ne_nil, fun _ hc => isDigit_of_mem_toDigits hc, Nat.ofDigitChars_ten_toDigits⟩

/-- The text of an integer has a minus sign or none. -/
theorem isSignedNumeral_intChars (n : Int) : IsSignedNumeral n (intChars n) := by
  have hdigits := isNumeral_toDigits n.natAbs
  rw [intChars]
  split
  · next hneg =>
    have hminus := IsSignedNumeral.minus hdigits
    rwa [show -(n.natAbs : Int) = n by omega] at hminus
  · next hpos =>
    have hbare := IsSignedNumeral.bare hdigits
    rwa [show (n.natAbs : Int) = n by omega] at hbare

namespace IntegerRange

variable {range : IntegerRange}

/-- **The number that digits denote**, for a range around zero that the number lies in. -/
theorem readDigits_of_isDigit (hlow : range.low ≤ 0) (hhigh : 0 ≤ range.high) {negative : Bool}
    {cs : List Char} (hcs : ∀ c ∈ cs, c.isDigit) {n : Nat}
    (h : range.low ≤ withSign negative (Nat.ofDigitChars 10 cs n) ∧
      withSign negative (Nat.ofDigitChars 10 cs n) ≤ range.high) :
    range.readDigits negative (withSign negative n) cs =
      .ok (withSign negative (Nat.ofDigitChars 10 cs n)) := by
  induction cs generalizing n with
  | nil => simp [readDigits]
  | cons c cs ih =>
    have hcons : Nat.ofDigitChars 10 (c :: cs) n =
        Nat.ofDigitChars 10 cs (10 * n + (c.toNat - 48)) := Nat.ofDigitChars_cons
    rw [hcons] at h ⊢
    have hle := le_ofDigitChars (10 * n + (c.toNat - 48)) cs
    rw [readDigits, decimalDigit_of_isDigit (hcs c List.mem_cons_self)]
    dsimp only
    have hfits : ¬ range.high < withSign negative (10 * n + (c.toNat - 48)) ∧
        ¬ withSign negative (10 * n + (c.toNat - 48)) < range.low := by
      cases negative <;> simp only [withSign, if_true, Bool.false_eq_true, if_false] at h ⊢ <;>
        omega
    rw [step_withSign, if_neg hfits.1, if_neg hfits.2]
    exact ih (fun c' hc' => hcs c' (List.mem_cons_of_mem c hc')) h

/-- Digits in front have no sign to be read. -/
theorem readChars_of_isDigit {cs : List Char} (hne : cs ≠ []) (hcs : ∀ c ∈ cs, c.isDigit) :
    range.readChars cs = range.readDigits false 0 cs := by
  unfold readChars
  split
  · exact absurd rfl hne
  · exact absurd (hcs '+' List.mem_cons_self) (by decide)
  · exact absurd (hcs '-' List.mem_cons_self) (by decide)
  · rfl

/-- **Which digits are read**: digits and nothing else, whose number the range holds. -/
theorem readDigits_eq_ok_iff (hlow : range.low ≤ 0) (hhigh : 0 ≤ range.high) {negative : Bool}
    {cs : List Char} {n : Nat} {m : Int}
    (hn : range.low ≤ withSign negative n ∧ withSign negative n ≤ range.high) :
    range.readDigits negative (withSign negative n) cs = .ok m ↔
      (∀ c ∈ cs, c.isDigit) ∧ m = withSign negative (Nat.ofDigitChars 10 cs n) ∧
        range.low ≤ m ∧ m ≤ range.high := by
  constructor
  · intro h
    induction cs generalizing n with
    | nil =>
      obtain rfl := Except.ok.inj h
      exact ⟨by simp, by simp, hn⟩
    | cons c cs ih =>
      rw [readDigits] at h
      split at h
      · cases h
      · next d hd =>
        obtain ⟨hdigit, rfl⟩ := decimalDigit_eq_some_iff.1 hd
        dsimp only at h
        rw [step_withSign] at h
        split at h
        · cases h
        · split at h
          · cases h
          · next hhigh' hlow' =>
            obtain ⟨hdigits, hm, hfits⟩ := ih ⟨by omega, by omega⟩ h
            exact ⟨List.forall_mem_cons.2 ⟨hdigit, hdigits⟩,
              by rw [hm, Nat.ofDigitChars_cons]; rfl, hfits⟩
  · rintro ⟨hdigits, rfl, hfits⟩
    exact readDigits_of_isDigit hlow hhigh hdigits hfits

/-- **Which characters denote an integer of the range**: the decimal digits of its size, behind a
minus sign if it is negative, or else behind a plus sign or none. Zero may have a minus sign where
there are negative numbers. -/
theorem readChars_eq_ok_iff (hlow : range.low ≤ 0) (hhigh : 0 ≤ range.high) {cs : List Char}
    {m : Int} :
    range.readChars cs = .ok m ↔ ∃ n digits, IsNumeral n digits ∧
      ((cs = digits ∨ cs = '+' :: digits) ∧ m = n ∨
        range.low < 0 ∧ cs = '-' :: digits ∧ m = -n) ∧ range.low ≤ m ∧ m ≤ range.high := by
  have hdigits : ∀ {negative : Bool} {digits : List Char}, digits ≠ [] →
      (range.readDigits negative 0 digits = .ok m ↔ ∃ n, IsNumeral n digits ∧
        m = withSign negative n ∧ range.low ≤ m ∧ m ≤ range.high) := by
    intro negative digits hne
    have hzero : withSign negative 0 = 0 := by cases negative <;> rfl
    have hread := @readDigits_eq_ok_iff range hlow hhigh negative digits 0 m
      (by rw [hzero]; exact ⟨hlow, hhigh⟩)
    rw [hzero] at hread
    rw [hread]
    constructor
    · rintro ⟨hall, hm, hfits⟩
      exact ⟨_, ⟨hne, hall, rfl⟩, hm, hfits⟩
    · rintro ⟨n, hnumeral, hm, hfits⟩
      exact ⟨hnumeral.isDigit, hnumeral.value ▸ hm, hfits⟩
  constructor
  · intro h
    unfold readChars at h
    split at h
    · cases h
    · next cs =>
      split at h
      · cases h
      · next hne =>
        obtain ⟨n, hnumeral, hm, hfits⟩ := (hdigits (by simpa using hne)).1 h
        exact ⟨n, cs, hnumeral, .inl ⟨.inr rfl, hm⟩, hfits⟩
    · next cs =>
      split at h
      · cases h
      · next hne =>
        obtain ⟨hne, hneg⟩ : cs ≠ [] ∧ range.low < 0 := by simpa using hne
        obtain ⟨n, hnumeral, hm, hfits⟩ := (hdigits hne).1 h
        exact ⟨n, cs, hnumeral, .inr ⟨hneg, rfl, hm⟩, hfits⟩
    · next hne _ _ =>
      obtain ⟨n, hnumeral, hm, hfits⟩ := (hdigits hne).1 h
      exact ⟨n, cs, hnumeral, .inl ⟨.inl rfl, hm⟩, hfits⟩
  · rintro ⟨n, digits, hnumeral, (⟨rfl | rfl, hm⟩ | ⟨hneg, rfl, hm⟩), hfits⟩
    · rw [readChars_of_isDigit hnumeral.ne_nil hnumeral.isDigit]
      exact (hdigits hnumeral.ne_nil).2 ⟨n, hnumeral, hm, hfits⟩
    · rw [readChars, if_neg (by simpa using hnumeral.ne_nil)]
      exact (hdigits hnumeral.ne_nil).2 ⟨n, hnumeral, hm, hfits⟩
    · rw [readChars, if_neg (by simpa using ⟨hnumeral.ne_nil, hneg⟩)]
      exact (hdigits hnumeral.ne_nil).2 ⟨n, hnumeral, hm, hfits⟩

/-- **An integer of the range reads back** from its text. -/
theorem readChars_intChars {n : Int} (hlow : range.low ≤ 0) (hhigh : 0 ≤ range.high)
    (h : range.low ≤ n ∧ n ≤ range.high) : range.readChars (intChars n) = .ok n := by
  refine (readChars_eq_ok_iff hlow hhigh).2 ⟨n.natAbs, _, isNumeral_toDigits n.natAbs, ?_, h⟩
  rw [intChars]
  split
  · next hneg => exact .inr ⟨by omega, rfl, by omega⟩
  · next hpos => exact .inl ⟨.inl rfl, by omega⟩

/-- **Where there are negative numbers**, a text denotes an integer of the range with or without a
sign. -/
theorem readChars_eq_ok_iff_of_low_neg (hlow : range.low < 0) (hhigh : 0 ≤ range.high)
    {cs : List Char} {m : Int} :
    range.readChars cs = .ok m ↔ IsSignedNumeral m cs ∧ range.low ≤ m ∧ m ≤ range.high := by
  rw [readChars_eq_ok_iff (Int.le_of_lt hlow) hhigh]
  constructor
  · rintro ⟨n, digits, hnumeral, ⟨rfl | rfl, rfl⟩ | ⟨-, rfl, rfl⟩, hfits⟩
    · exact ⟨.bare hnumeral, hfits⟩
    · exact ⟨.plus hnumeral, hfits⟩
    · exact ⟨.minus hnumeral, hfits⟩
  · rintro ⟨hsigned, hfits⟩
    cases hsigned with
    | bare hnumeral => exact ⟨_, _, hnumeral, .inl ⟨.inl rfl, rfl⟩, hfits⟩
    | plus hnumeral => exact ⟨_, _, hnumeral, .inl ⟨.inr rfl, rfl⟩, hfits⟩
    | minus hnumeral => exact ⟨_, _, hnumeral, .inr ⟨hlow, rfl, rfl⟩, hfits⟩

theorem high_unsigned (bits : Nat) : (unsigned bits).high = (Nat.pow 2 bits : Nat) - 1 := by
  have hpow : Int.pow 2 bits = (Nat.pow 2 bits : Nat) := (Int.natCast_pow 2 bits).symm
  rw [unsigned, hpow]

/-- **Where there are no negative numbers**, a text denotes a number of so many bits with or without a
plus sign. -/
theorem readChars_unsigned_eq_ok_iff {bits : Nat} {cs : List Char} {m : Int} :
    (unsigned bits).readChars cs = .ok m ↔
      ∃ n : Nat, IsUnsignedNumeral n cs ∧ m = n ∧ n < Nat.pow 2 bits := by
  have hpos : 0 < Nat.pow 2 bits := Nat.two_pow_pos bits
  have hhigh := high_unsigned bits
  rw [readChars_eq_ok_iff (Int.le_refl 0) (by omega)]
  constructor
  · rintro ⟨n, digits, hnumeral, ⟨hcs, rfl⟩ | ⟨hneg, -⟩, -, hle⟩
    · exact ⟨n, ⟨digits, hnumeral, hcs⟩, rfl, by omega⟩
    · exact absurd hneg (Int.lt_irrefl 0)
  · rintro ⟨n, ⟨digits, hnumeral, hcs⟩, rfl, hlt⟩
    exact ⟨n, digits, hnumeral, .inl ⟨hcs, rfl⟩, Int.natCast_nonneg n, by omega⟩

end IntegerRange

/-- An integer is written with digits and signs. -/
theorem IsSignedNumeral.isDigit_or {m : Int} {cs : List Char} (h : IsSignedNumeral m cs) {c : Char}
    (hc : c ∈ cs) : c.isDigit ∨ c = '+' ∨ c = '-' := by
  cases h with
  | bare hnumeral => exact .inl (hnumeral.isDigit c hc)
  | plus hnumeral =>
    rcases List.mem_cons.1 hc with rfl | hc
    · exact .inr (.inl rfl)
    · exact .inl (hnumeral.isDigit c hc)
  | minus hnumeral =>
    rcases List.mem_cons.1 hc with rfl | hc
    · exact .inr (.inr rfl)
    · exact .inl (hnumeral.isDigit c hc)

/-- A number is written with digits and plus signs. -/
theorem IsUnsignedNumeral.isDigit_or {n : Nat} {cs : List Char} (h : IsUnsignedNumeral n cs)
    {c : Char} (hc : c ∈ cs) : c.isDigit ∨ c = '+' := by
  obtain ⟨digits, hnumeral, rfl | rfl⟩ := h
  · exact .inl (hnumeral.isDigit c hc)
  · rcases List.mem_cons.1 hc with rfl | hc
    · exact .inr rfl
    · exact .inl (hnumeral.isDigit c hc)

/-! ### Zeros in front -/

/-- Only zero begins with the digit zero. -/
theorem eq_zero_of_head_toDigits {n : Nat} (h : (Nat.toDigits 10 n).head? = some '0') : n = 0 := by
  induction n using Nat.strongRecOn with
  | ind n ih =>
    rw [Nat.toDigits_eq_if (by decide)] at h
    split at h
    · simpa using h
    · next hlarge =>
      have hhead : (Nat.toDigits 10 (n / 10)).head? = some '0' := by
        cases hdigits : Nat.toDigits 10 (n / 10) with
        | nil => exact absurd hdigits Nat.toDigits_ne_nil
        | cons c cs => simpa [hdigits] using h
      have hzero := ih (n / 10) (by omega) hhead
      omega

/-- A number below ten is written as its digit. -/
theorem toDigits_of_isDigit {c : Char} (h : c.isDigit) : Nat.toDigits 10 (c.toNat - 48) = [c] := by
  rw [Char.isDigit_iff_toNat] at h
  have hlow : 48 ≤ c.toNat := h.1
  have hhigh : c.toNat ≤ 57 := h.2
  have hdigit : (c.toNat - 48).digitChar = c := by
    apply Char.toNat_inj.1
    rw [Nat.toNat_digitChar_of_lt_ten (by omega)]
    omega
  rw [Nat.toDigits_of_lt_base (by omega), hdigit]

/-- Digits behind the digits of a number that is not zero are written as they stand. -/
theorem toDigits_append_of_isDigit {n : Nat} (hn : 0 < n) {cs : List Char}
    (hcs : ∀ c ∈ cs, c.isDigit) :
    Nat.toDigits 10 n ++ cs = Nat.toDigits 10 (Nat.ofDigitChars 10 cs n) := by
  induction cs generalizing n with
  | nil => simp
  | cons c cs ih =>
    obtain ⟨hc, hothers⟩ := List.forall_mem_cons.1 hcs
    have hhigh : c.toNat ≤ 57 := (Char.isDigit_iff_toNat.1 hc).2
    have hvalue : Nat.ofDigitChars 10 (c :: cs) n =
        Nat.ofDigitChars 10 cs (10 * n + (c.toNat - 48)) := Nat.ofDigitChars_cons
    calc Nat.toDigits 10 n ++ c :: cs
        = (Nat.toDigits 10 n ++ Nat.toDigits 10 (c.toNat - 48)) ++ cs := by
          rw [toDigits_of_isDigit hc, List.append_assoc, List.singleton_append]
      _ = Nat.toDigits 10 (10 * n + (c.toNat - 48)) ++ cs := by
          rw [Nat.toDigits_append_toDigits (by decide) hn (by omega)]
      _ = Nat.toDigits 10 (Nat.ofDigitChars 10 (c :: cs) n) := by
          rw [ih (by omega) hothers, hvalue]

/-- **A numeral is what its number is written as** when it has no zeros in front. -/
theorem IsNumeral.eq_toDigits_iff {n : Nat} {digits : List Char} (h : IsNumeral n digits) :
    digits = Nat.toDigits 10 n ↔ (digits.head? = some '0' → digits = ['0']) := by
  constructor
  · rintro rfl hzero
    rw [eq_zero_of_head_toDigits hzero, Nat.toDigits_zero]
  · intro hzero
    obtain ⟨hne, hdigits, rfl⟩ := h
    cases digits with
    | nil => exact absurd rfl hne
    | cons c cs =>
      by_cases hc : c = '0'
      · rw [hzero (by rw [hc]; rfl)]
        rfl
      · obtain ⟨hfirst, hothers⟩ := List.forall_mem_cons.1 hdigits
        have hlow : 48 ≤ c.toNat := (Char.isDigit_iff_toNat.1 hfirst).1
        have hpos : 0 < c.toNat - 48 := by
          have hne : c.toNat ≠ 48 := fun heq => hc (Char.toNat_inj.1 heq)
          omega
        have hvalue : Nat.ofDigitChars 10 (c :: cs) 0 = Nat.ofDigitChars 10 cs (c.toNat - 48) := by
          rw [Nat.ofDigitChars_cons, Nat.mul_zero, Nat.zero_add]
          rfl
        rw [hvalue, ← toDigits_append_of_isDigit hpos hothers, toDigits_of_isDigit hfirst,
          List.singleton_append]

/-! ### Blanks around integers -/

theorem isBlank_of_isDigit {c : Char} (h : c.isDigit) : isBlank c = false := by
  rw [Char.isDigit_iff_toNat] at h
  have hlow : 48 ≤ c.toNat := h.1
  have hhigh : c.toNat ≤ 57 := h.2
  simp only [isBlank, Bool.or_eq_false_iff, Bool.and_eq_false_iff, decide_eq_false_iff_not]
  omega

theorem trimBlanks_of_not_blank {cs : List Char} (h : ∀ c ∈ cs, isBlank c = false) :
    trimBlanks cs = cs := by
  have hdrop : ∀ {ds : List Char}, (∀ c ∈ ds, isBlank c = false) → ds.dropWhile isBlank = ds := by
    intro ds hds
    cases ds with
    | nil => rfl
    | cons c ds => rw [List.dropWhile_cons_of_neg (by simp [hds c List.mem_cons_self])]
  rw [trimBlanks, hdrop h, hdrop fun c hc => h c (List.mem_reverse.1 hc), List.reverse_reverse]

/-- **Blanks around a text** do not count. -/
theorem trimBlanks_append {before after : List Char} (hbefore : ∀ c ∈ before, isBlank c)
    (hafter : ∀ c ∈ after, isBlank c) (cs : List Char) :
    trimBlanks (before ++ cs ++ after) = trimBlanks cs := by
  have hback : ∀ c ∈ after.reverse, isBlank c := fun c hc => hafter c (List.mem_reverse.1 hc)
  rw [trimBlanks, List.append_assoc, List.dropWhile_append_of_pos hbefore, List.dropWhile_append]
  split
  · next hblank =>
    -- The text has nothing but blanks.
    rw [trimBlanks, List.isEmpty_iff.1 hblank, List.dropWhile_eq_nil_iff.2 hafter]
  · rw [List.reverse_append, List.dropWhile_append_of_pos hback, trimBlanks]

/-- **What is left of a text when it is trimmed**, unless that has blanks of its own: the rest are
blanks around it. -/
theorem trimBlanks_eq_iff {cs core : List Char} (hcore : ∀ c ∈ core, isBlank c = false) :
    trimBlanks cs = core ↔ ∃ before after, (∀ c ∈ before, isBlank c) ∧ (∀ c ∈ after, isBlank c) ∧
      cs = before ++ core ++ after := by
  constructor
  · intro h
    have hback : (cs.dropWhile isBlank).reverse.takeWhile isBlank ++ core.reverse =
        (cs.dropWhile isBlank).reverse := by
      rw [← h, trimBlanks, List.reverse_reverse, List.takeWhile_append_dropWhile]
    refine ⟨cs.takeWhile isBlank, ((cs.dropWhile isBlank).reverse.takeWhile isBlank).reverse,
      fun c hc => List.mem_takeWhile_imp hc,
      fun c hc => List.mem_takeWhile_imp (List.mem_reverse.1 hc), ?_⟩
    rw [List.append_assoc, ← List.reverse_reverse core, ← List.reverse_append, hback,
      List.reverse_reverse, List.takeWhile_append_dropWhile]
  · rintro ⟨before, after, hbefore, hafter, rfl⟩
    rw [trimBlanks_append hbefore hafter, trimBlanks_of_not_blank hcore]

end BrokerAdmin
