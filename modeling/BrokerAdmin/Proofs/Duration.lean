import BrokerAdmin.Duration
import BrokerAdmin.Proofs.IntegerText
import BrokerAdmin.Proofs.Text

/-!
# Which texts are durations

A text denotes a duration by a number and the letters of a unit; blanks may stand at its two ends.
How much time that is, is said in nanoseconds here: so many times the nanoseconds of the unit, with
nothing lost and nothing wrapped. The parts of a duration are the quotient and the remainder of that
by a second, which fixes them.

The letters of one unit are the end of another's, so the order in which the reader tries them counts.
It is right because a number ends in a digit: whatever stands behind the digits is the whole unit.

## Main definitions

* `Duration.IsUnits`: a duration is a number of units.
* `Duration.HasNumber`: a text is a number with a unit.
* `Duration.Denotes`: a text denotes a duration.

## Main results

* `Duration.splitUnit_append`: the unit behind a number is found.
* `Duration.ofUnits_eq_some_iff`: the duration of a number of units.
* `Duration.parse_exact`: which texts are accepted, and as what.
-/

namespace BrokerAdmin.Duration

/-! ### The grammar -/

/-- The nanoseconds of a second. -/
def second : Nat := 1000000000

/-- The letters of a unit. -/
def Unit.text : Unit → String
  | .milliseconds => "ms"
  | .hours => "h"
  | .minutes => "m"
  | .seconds => "s"
  | .unwritten => ""

/-- The nanoseconds of a unit. -/
def Unit.inNanoseconds : Unit → Nat
  | .milliseconds => 1000000
  | .hours => 3600 * second
  | .minutes => 60 * second
  | .seconds => second
  | .unwritten => second

/-- So many units have no more seconds than 64 bits hold. A number of 64 bits itself can have more
than that in the units above a second alone. -/
def Unit.Fits : Unit → Nat → Prop
  | .hours, n => n * 3600 ≤ maxSeconds
  | .minutes, n => n * 60 ≤ maxSeconds
  | _, _ => True

/-- A duration is exactly so many units. -/
structure IsUnits (unit : Unit) (n : Nat) (d : Duration) : Prop where
  /-- Its parts make up the units. -/
  total : d.seconds * second + d.nanoseconds = n * unit.inNanoseconds
  /-- The rest is below a second. -/
  rest : d.nanoseconds < second

/-- A text is a number with a unit: that is all there is of it but for blanks at its two ends. -/
def HasNumber (s : String) (n : Nat) (unit : Unit) : Prop :=
  ∃ before number after, (∀ c ∈ before, isBlank c) ∧ (∀ c ∈ after, isBlank c) ∧
    s.toList = before ++ (number ++ unit.text.toList) ++ after ∧ IsUnsignedNumeral n number

/-- A text denotes a duration: it is a number with a unit, neither the number nor the seconds have
more than 64 bits, and the duration is exactly so many units. -/
def Denotes (s : String) (d : Duration) : Prop :=
  ∃ n unit, HasNumber s n unit ∧ n ≤ maxSeconds ∧ unit.Fits n ∧ IsUnits unit n d

/-! ### Units -/

/-- There is one duration of so many units. -/
theorem IsUnits.unique {unit : Unit} {n : Nat} {d d' : Duration} (h : IsUnits unit n d)
    (h' : IsUnits unit n d') : d = d' := by
  obtain ⟨seconds, nanoseconds⟩ := d
  obtain ⟨seconds', nanoseconds'⟩ := d'
  have htotal : seconds * second + nanoseconds = seconds' * second + nanoseconds' :=
    h.total.trans h'.total.symm
  have hrest : nanoseconds < second ∧ nanoseconds' < second := ⟨h.rest, h'.rest⟩
  simp only [second] at htotal hrest
  rw [mk.injEq]
  omega

/-- A duration without a rest. -/
theorem isUnits_of_seconds {unit : Unit} {n k : Nat} (h : unit.inNanoseconds = k * second) :
    IsUnits unit n ⟨n * k, 0⟩ where
  total := by
    calc n * k * second + 0 = n * (k * second) := by rw [Nat.add_zero, Nat.mul_assoc]
      _ = n * unit.inNanoseconds := by rw [h]
  rest := (by decide : 0 < second)

/-- A thousand milliseconds are a second. -/
theorem isUnits_milliseconds (n : Nat) :
    IsUnits .milliseconds n ⟨n / 1000, n % 1000 * 1000000⟩ where
  total := by
    have hsecond : second = 1000 * 1000000 := rfl
    calc n / 1000 * second + n % 1000 * 1000000
        = (1000 * (n / 1000) + n % 1000) * 1000000 := by
          rw [hsecond, Nat.add_mul, ← Nat.mul_assoc, Nat.mul_comm (n / 1000)]
      _ = n * 1000000 := by rw [Nat.div_add_mod]
  rest := by
    have hrest : n % 1000 < 1000 := Nat.mod_lt n (by decide)
    simp only [second]
    omega

/-- **The duration of a number of units** is exactly that, unless it has too many seconds. -/
theorem ofUnits_eq_some_iff {unit : Unit} {n : Nat} {d : Duration} :
    ofUnits unit n = some d ↔ unit.Fits n ∧ IsUnits unit n d := by
  have hsome : ∀ {d' : Duration}, IsUnits unit n d' → (some d' = some d ↔ IsUnits unit n d) :=
    fun h => ⟨fun heq => Option.some.inj heq ▸ h, fun h' => congrArg some (h.unique h')⟩
  cases unit with
  | milliseconds => simp only [ofUnits, Unit.Fits, true_and, hsome (isUnits_milliseconds n)]
  | hours =>
    by_cases hfits : n * 3600 ≤ maxSeconds
    · simp only [ofUnits, Unit.Fits, hfits, if_true, true_and, hsome (isUnits_of_seconds rfl)]
    · simp [ofUnits, Unit.Fits, hfits]
  | minutes =>
    by_cases hfits : n * 60 ≤ maxSeconds
    · simp only [ofUnits, Unit.Fits, hfits, if_true, true_and, hsome (isUnits_of_seconds rfl)]
    · simp [ofUnits, Unit.Fits, hfits]
  | seconds =>
    have hunits : IsUnits .seconds n ⟨n * 1, 0⟩ := isUnits_of_seconds (Nat.one_mul second).symm
    simp only [ofUnits, Unit.Fits, true_and, ← hsome hunits, Nat.mul_one]
  | unwritten =>
    have hunits : IsUnits .unwritten n ⟨n * 1, 0⟩ := isUnits_of_seconds (Nat.one_mul second).symm
    simp only [ofUnits, Unit.Fits, true_and, ← hsome hunits, Nat.mul_one]

/-- What is split off is the unit, and nothing is lost. -/
theorem eq_append_of_splitUnit {cs number : List Char} {unit : Unit}
    (h : splitUnit cs = (unit, number)) : cs = number ++ unit.text.toList := by
  unfold splitUnit at h
  repeat' split at h
  all_goals obtain ⟨rfl, rfl⟩ := Prod.mk.inj h
  · exact dropBack_eq_some_iff.1 ‹_›
  · exact dropBack_eq_some_iff.1 ‹_›
  · exact dropBack_eq_some_iff.1 ‹_›
  · exact dropBack_eq_some_iff.1 ‹_›
  · exact (List.append_nil _).symm

/-- **The unit behind a number is found**, since the number ends in a digit. -/
theorem splitUnit_append {n : Nat} {number : List Char} (h : IsUnsignedNumeral n number)
    (unit : Unit) : splitUnit (number ++ unit.text.toList) = (unit, number) := by
  obtain ⟨front, c, rfl, hc⟩ : ∃ front c, number = front ++ [c] ∧ c.isDigit := by
    obtain ⟨digits, hdigits, hnumber⟩ := h
    have hlast := List.dropLast_concat_getLast hdigits.ne_nil
    have hdigit := hdigits.isDigit _ (List.getLast_mem hdigits.ne_nil)
    rcases hnumber with rfl | rfl
    · exact ⟨_, _, hlast.symm, hdigit⟩
    · exact ⟨'+' :: digits.dropLast, _, congrArg ('+' :: ·) hlast.symm, hdigit⟩
  have hletter : ∀ {letter : Char}, letter.isDigit = false → letter ≠ c := by
    rintro letter hletter rfl
    rw [hc] at hletter
    cases hletter
  have hh : 'h' ≠ c := hletter rfl
  have hm : 'm' ≠ c := hletter rfl
  have hs : 's' ≠ c := hletter rfl
  cases unit <;> simp [splitUnit, Unit.text, dropBack, dropFront, hh, hm, hs]

/-! ### The reader -/

/-- Neither a number nor a unit has blanks. -/
theorem not_isBlank_of_mem {n : Nat} {number : List Char} (h : IsUnsignedNumeral n number)
    (unit : Unit) : ∀ c ∈ number ++ unit.text.toList, isBlank c = false := by
  have hunit : unit.text.toList.all (isBlank · = false) = true := by cases unit <;> rfl
  intro c hc
  rcases List.mem_append.1 hc with hnumber | hmem
  · rcases h.isDigit_or hnumber with hdigit | rfl
    · exact isBlank_of_isDigit hdigit
    · rfl
  · simpa using List.all_eq_true.1 hunit c hmem

/-- What is left of a text without the blanks around it is a number and a unit. -/
theorem hasNumber_iff {s : String} {n : Nat} {unit : Unit} : HasNumber s n unit ↔
    ∃ number, trimBlanks s.toList = number ++ unit.text.toList ∧ IsUnsignedNumeral n number := by
  constructor
  · rintro ⟨before, number, after, hbefore, hafter, hs, hnumber⟩
    exact ⟨number, (trimBlanks_eq_iff (not_isBlank_of_mem hnumber unit)).2
      ⟨before, after, hbefore, hafter, hs⟩, hnumber⟩
  · rintro ⟨number, hs, hnumber⟩
    obtain ⟨before, after, hbefore, hafter, hs⟩ :=
      (trimBlanks_eq_iff (not_isBlank_of_mem hnumber unit)).1 hs
    exact ⟨before, number, after, hbefore, hafter, hs, hnumber⟩

/-- **The reader finds what the grammar says.** -/
theorem parse_eq_ok_iff {s : String} {d : Duration} : parse s = .ok d ↔ Denotes s d := by
  have hmax : ∀ {n : Nat}, n < Nat.pow 2 64 ↔ n ≤ maxSeconds := Nat.lt_succ_iff
  simp only [Denotes, hasNumber_iff]
  rw [parse]
  dsimp only
  constructor
  · intro h
    split at h
    · cases h
    · generalize hsplit : splitUnit (trimBlanks s.toList) = split at h
      obtain ⟨unit, number⟩ := split
      dsimp only at h
      split at h
      · cases h
      · next m hm =>
        obtain ⟨n, hnumber, rfl, hlt⟩ := IntegerRange.readChars_unsigned_eq_ok_iff.1 hm
        split at h
        · next d' hunits =>
          obtain rfl := Except.ok.inj h
          obtain ⟨hfits, hunits⟩ := ofUnits_eq_some_iff.1 hunits
          exact ⟨n, unit, ⟨number, eq_append_of_splitUnit hsplit, hnumber⟩, hmax.1 hlt, hfits,
            hunits⟩
        · cases h
  · rintro ⟨n, unit, ⟨number, hs, hnumber⟩, hle, hfits, hunits⟩
    have hne : (trimBlanks s.toList).isEmpty = false := by
      obtain ⟨digits, hdigits, hnumber | hnumber⟩ := hnumber <;>
        simp [hs, hnumber, hdigits.ne_nil]
    have hread : (IntegerRange.unsigned 64).readChars number = .ok n :=
      IntegerRange.readChars_unsigned_eq_ok_iff.2 ⟨n, hnumber, rfl, hmax.2 hle⟩
    rw [if_neg (by simp [hne]), hs, splitUnit_append hnumber]
    dsimp only
    rw [hread]
    dsimp only
    rw [Int.toNat_natCast, ofUnits_eq_some_iff.2 ⟨hfits, hunits⟩]

/-- **Which texts are accepted, and as what.** A text is accepted exactly when it denotes a duration,
which is then the result: between blanks it has a number, behind a plus sign or none, and a unit or
none, and neither the number nor its seconds are beyond 64 bits. The duration is so many units to the
nanosecond. Any other text is an error. -/
theorem parse_exact (s : String) :
    (∀ d, parse s = .ok d ↔ Denotes s d) ∧
    ((∀ d, ¬ Denotes s d) ↔ ∃ fault, parse s = .error fault) := by
  refine ⟨fun _ => parse_eq_ok_iff, ?_⟩
  simp only [← parse_eq_ok_iff]
  cases parse s with
  | ok d => simp
  | error fault => simp

/-- The greatest number of milliseconds, and more hours than there is room for. -/
example : parse "\u2003+18446744073709551615ms\n" = .ok ⟨18446744073709551, 615000000⟩ ∧
    parse "5124095576030432h" = .error (.outOfRange "5124095576030432h") := by
  decide +kernel

end BrokerAdmin.Duration
