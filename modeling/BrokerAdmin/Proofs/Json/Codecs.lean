import BrokerAdmin.Json.Codec
import BrokerAdmin.Proofs.Json.Print
import BrokerAdmin.Proofs.Result

/-!
# Reading values of one type

Which documents a codec reads is said here without running it: an integer is a numeral in range, a
floating-point number may also be given as an integer, and a list is read from an array item by item.

## Main definitions

* `Document.IsInteger`, `Document.IsNumber`: documents that are numbers.

## Main results

* `Codec.read_int_eq_ok_iff`, `Codec.read_float_eq_ok_iff`, `Codec.read_string_eq_ok_iff`: which
  documents numbers and texts are read from.
* `Codec.read_option_eq_ok_iff`, `Codec.read_list_eq_ok_iff`: the same for values that may be missing
  and for lists, by what is known of their parts.
* `Codec.ofBytes_eq_ok_iff`, `Codec.ofString_eq_ok_iff`: whole texts.
-/

namespace BrokerAdmin.Json

open Result

theorem requireNone_eq_ok_iff {flaw : Option Flaw} : requireNone flaw = .ok () ↔ flaw = none := by
  cases flaw <;> simp [requireNone]

namespace Document

/-! ### Numbers -/

/-- A document is an integer of a range. -/
def IsInteger (range : IntegerRange) (d : Document) (n : Int) : Prop :=
  ∃ numeral, d = .number numeral ∧ numeral.read = some (.int n) ∧ range.low ≤ n ∧ n ≤ range.high

theorem IsInteger.unique {range : IntegerRange} {d : Document} {m n : Int}
    (hm : d.IsInteger range m) (hn : d.IsInteger range n) : m = n := by
  obtain ⟨numeral, rfl, hread, -⟩ := hm
  obtain ⟨numeral', heq, hread', -⟩ := hn
  obtain rfl := Document.number.inj heq
  exact Number.int.inj (Option.some.inj (hread.symm.trans hread'))

/-- What is printed for an integer of 64 bits. -/
theorem isInteger_ofValue {range : IntegerRange} {n : Int} (hlow : -0x8000000000000000 ≤ n)
    (hhigh : n ≤ 0xFFFFFFFFFFFFFFFF) (h : range.low ≤ n ∧ n ≤ range.high) :
    (ofValue (.int n)).IsInteger range n :=
  ⟨_, rfl, Numeral.read_ofInt hlow hhigh, h⟩

/-- A document is a number of double precision, which may be given as an integer. -/
def IsNumber (d : Document) (x : Binary64) : Prop :=
  ∃ numeral, d = .number numeral ∧
    (numeral.read = some (.float x) ∨ ∃ n, numeral.read = some (.int n) ∧ x = .ofInt n)

end Document

namespace Codec

variable {α : Type} {codec : Codec α} {room : Nat} {d : Document}

/-! ### Values without parts -/

theorem read_int_eq_ok_iff {range : IntegerRange} {n : Int} :
    (int range).read room d = .ok n ↔ d.IsInteger range n := by
  cases d with
  | number numeral =>
    simp only [int, Document.IsInteger, Document.number.injEq, exists_eq_left']
    cases numeral.read with
    | none => simp
    | some number =>
      cases number with
      | float x => simp
      | int m =>
        simp only [Option.some.injEq, Number.int.injEq]
        split
        · next hholds =>
          have hfits : range.low ≤ m ∧ m ≤ range.high := by simpa [IntegerRange.holds] using hholds
          constructor
          · intro h
            obtain rfl := Except.ok.inj h
            exact ⟨rfl, hfits⟩
          · rintro ⟨rfl, -⟩
            rfl
        · next hholds =>
          constructor
          · intro h
            cases h
          · rintro ⟨rfl, hfits⟩
            exact absurd (by simpa [IntegerRange.holds] using hfits) hholds
  | _ => simp [int, Document.IsInteger]

theorem read_float_eq_ok_iff {x : Binary64} : float.read room d = .ok x ↔ d.IsNumber x := by
  cases d with
  | number numeral =>
    simp only [float, Document.IsNumber, Document.number.injEq, exists_eq_left']
    cases numeral.read with
    | none => simp
    | some number => cases number <;> simp [eq_comm]
  | _ => simp [float, Document.IsNumber]

theorem read_string_eq_ok_iff {s : String} : string.read room d = .ok s ↔ d = .string (some s) := by
  cases d with
  | string s? => cases s? <;> simp [string]
  | _ => simp [string]

/-! ### Values with parts -/

theorem read_option_eq_ok_iff {x : Option α} : codec.option.read room d = .ok x ↔
    d = .null ∧ x = none ∨ d ≠ .null ∧ ∃ y, codec.read room d = .ok y ∧ x = some y := by
  cases d with
  | null => simp [option, eq_comm]
  | _ => simp [option, map_eq_ok_iff, @eq_comm _ x]

theorem readAll_eq_ok_iff {items : List Document} {xs : List α} :
    codec.readAll room items = .ok xs ↔ items.map (codec.read room) = xs.map .ok := by
  induction items generalizing xs with
  | nil => cases xs <;> simp [readAll]
  | cons item items ih =>
    rw [readAll, List.map_cons]
    constructor
    · intro h
      obtain ⟨x, hx, h⟩ := bind_eq_ok_iff.1 h
      obtain ⟨xs', hxs, h⟩ := bind_eq_ok_iff.1 h
      obtain rfl := Except.ok.inj h
      rw [hx, ih.1 hxs, List.map_cons]
    · intro h
      cases xs with
      | nil => cases h
      | cons x xs =>
        obtain ⟨hx, hxs⟩ := List.cons.inj h
        rw [hx, ok_bind, ih.2 hxs]
        rfl

/-- **Which documents a list is read from**: arrays that end well, item by item. -/
theorem read_list_eq_ok_iff {xs : List α} : codec.list.read (room + 1) d = .ok xs ↔
    ∃ items, d = .array items none ∧ items.map (codec.read room) = xs.map .ok := by
  cases d with
  | array items flaw =>
    constructor
    · intro h
      obtain ⟨xs', hxs, h⟩ := bind_eq_ok_iff.1 h
      obtain ⟨⟨⟩, hflaw, h⟩ := bind_eq_ok_iff.1 h
      obtain rfl := Except.ok.inj h
      exact ⟨items, by rw [requireNone_eq_ok_iff.1 hflaw], readAll_eq_ok_iff.1 hxs⟩
    · rintro ⟨items', heq, hitems⟩
      obtain ⟨rfl, rfl⟩ := Document.array.inj heq
      simp only [list, readAll_eq_ok_iff.2 hitems, ok_bind]
      rfl
  | _ => simp [list]

/-- A list of texts is read from them. -/
theorem map_read_string_eq_iff {items : List Document} {xs : List String} :
    items.map (string.read room) = xs.map .ok ↔ items = xs.map fun s => .string (some s) := by
  induction items generalizing xs with
  | nil => cases xs <;> simp
  | cons item items ih => cases xs <;> simp [read_string_eq_ok_iff, ih]

/-! ### Whole texts -/

/-- A whole text is read when its document is and nothing follows it. -/
theorem ofBytes_eq_ok_iff {codec : Codec α} {bytes : Bytes} {x : α} :
    codec.ofBytes bytes = .ok x ↔ ∃ d, Document.ofBytes bytes = (d, none) ∧
      codec.read maxDepth d = .ok x := by
  rw [ofBytes]
  obtain ⟨d, trailing⟩ := Document.ofBytes bytes
  constructor
  · intro h
    obtain ⟨x', hread, h⟩ := bind_eq_ok_iff.1 h
    obtain ⟨⟨⟩, htrailing, h⟩ := bind_eq_ok_iff.1 h
    obtain rfl := Except.ok.inj h
    exact ⟨d, by rw [requireNone_eq_ok_iff.1 htrailing], hread⟩
  · rintro ⟨d', heq, hread⟩
    obtain ⟨rfl, rfl⟩ := Prod.mk.inj heq
    dsimp only
    rw [hread, ok_bind]
    rfl

theorem ofString_eq_ok_iff {codec : Codec α} {s : String} {x : α} :
    codec.ofString s = .ok x ↔ ∃ d, Document.ofBytes (Utf8.encode s) = (d, none) ∧
      codec.read maxDepth d = .ok x :=
  ofBytes_eq_ok_iff

end Codec

end BrokerAdmin.Json
