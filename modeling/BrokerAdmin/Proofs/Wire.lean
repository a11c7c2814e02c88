import BrokerAdmin.Proofs.Result
import BrokerAdmin.Proofs.Utf8
import BrokerAdmin.Wire
import Mathlib.Algebra.Group.Int.Defs
import Mathlib.Algebra.Group.Nat.Defs

/-!
# The grammar of the wire format

A reader takes a value off the front of bytes. What it takes is described here without the reader,
by predicates on bytes, and each reader is shown to take exactly what its predicate describes. Proofs
about records then argue about pieces of bytes and never about readers.

The room that an enclosing length leaves decides only which error a reader gives, so no predicate
mentions it.

## Main definitions

* `Wire.Accepts`: a reader takes exactly what a predicate describes.
* `Wire.IsVarint`, `Wire.IsBlock`, `Wire.IsText`, `Wire.IsSkipped`: the predicates.
* `Wire.Steps`: what has been read and what is left to read after some fields.

## Main results

* `Wire.varint_accepts`, `Wire.block_accepts`, `Wire.text_accepts`, `Wire.skip_eq_ok_iff`.
* `Wire.isVarint_putVarint`: a written number is a varint.
* `Wire.readAll_of_steps`, `Wire.readAll_eq_ok_iff`: reading field after field.
-/

namespace BrokerAdmin.Wire

open Result

variable {ε α : Type}

/-- A reader takes exactly what a predicate describes off the front, whatever follows. -/
def Accepts (read : Bytes → Except ε (α × Bytes)) (P : α → Bytes → Prop) : Prop :=
  ∀ bytes x rest, read bytes = .ok (x, rest) ↔ ∃ front, P x front ∧ bytes = front ++ rest

section Accepts

variable {read : Bytes → Except ε (α × Bytes)} {P : α → Bytes → Prop}

theorem Accepts.sound (h : Accepts read P) {bytes rest : Bytes} {x : α}
    (hx : read bytes = .ok (x, rest)) : ∃ front, P x front ∧ bytes = front ++ rest :=
  (h bytes x rest).1 hx

theorem Accepts.complete (h : Accepts read P) {front : Bytes} {x : α} (hx : P x front)
    (rest : Bytes) : read (front ++ rest) = .ok (x, rest) :=
  (h _ x rest).2 ⟨front, hx, rfl⟩

end Accepts

/-! ### Varints -/

/-- The bytes of a varint for `n`: at most `more + 1` of them, all but the last with the top bit, and
the last at most `lastMax` if all are used. -/
inductive IsVarint (lastMax : UInt8) : (more n : Nat) → Bytes → Prop
  /-- The last byte that there may be. -/
  | full {b : UInt8} : b ≤ lastMax → IsVarint lastMax 0 b.toNat [b]
  /-- A last byte before that. -/
  | last {more : Nat} {b : UInt8} : b < 0x80 → IsVarint lastMax (more + 1) b.toNat [b]
  /-- A byte that is not the last. -/
  | cont {more n : Nat} {b : UInt8} {bytes : Bytes} : ¬ b < 0x80 → IsVarint lastMax more n bytes →
      IsVarint lastMax (more + 1) (b.toNat - 128 + 128 * n) (b :: bytes)

/-- The bytes of a varint of 64 bits. -/
def IsVarint64 (n : Nat) (bytes : Bytes) : Prop := IsVarint 1 9 n bytes

/-- The bytes of a varint of 32 bits. -/
def IsVarint32 (n : Nat) (bytes : Bytes) : Prop := IsVarint 0x0F 4 n bytes

theorem varint_accepts (lastMax : UInt8) (more : Nat) :
    Accepts (varint lastMax more) (IsVarint lastMax more) := by
  intro bytes n rest
  induction more generalizing bytes n with
  | zero =>
    constructor
    · intro h
      cases bytes with
      | nil => simp [varint] at h
      | cons b bytes =>
        rw [varint] at h
        split at h
        · next hb =>
          obtain ⟨rfl, rfl⟩ := Prod.mk.inj (Except.ok.inj h)
          exact ⟨[b], .full hb, rfl⟩
        · cases h
    · rintro ⟨front, hfront, rfl⟩
      cases hfront with
      | full hb => simp [varint, hb]
  | succ more ih =>
    constructor
    · intro h
      cases bytes with
      | nil => simp [varint] at h
      | cons b bytes =>
        rw [varint] at h
        split at h
        · next hb =>
          obtain ⟨rfl, rfl⟩ := Prod.mk.inj (Except.ok.inj h)
          exact ⟨[b], .last hb, rfl⟩
        · next hb =>
          obtain ⟨⟨m, rest'⟩, hm, h⟩ := bind_eq_ok_iff.1 h
          obtain ⟨rfl, rfl⟩ := Prod.mk.inj (Except.ok.inj h)
          obtain ⟨front, hfront, rfl⟩ := (ih bytes m).1 hm
          exact ⟨b :: front, .cont hb hfront, rfl⟩
    · rintro ⟨front, hfront, rfl⟩
      cases hfront with
      | last hb => simp [varint, hb]
      | @cont _ m b front hb hfront =>
        rw [List.cons_append, varint, if_neg hb, (ih _ m).2 ⟨front, hfront, rfl⟩]
        rfl

theorem varint64_accepts : Accepts varint64 IsVarint64 := varint_accepts 1 9

theorem varint32_accepts : Accepts varint32 IsVarint32 := varint_accepts 0x0F 4

theorem IsVarint.ne_nil {lastMax : UInt8} {more n : Nat} {bytes : Bytes}
    (h : IsVarint lastMax more n bytes) : bytes ≠ [] := by
  cases h <;> simp

theorem IsVarint.length_le {lastMax : UInt8} {more n : Nat} {bytes : Bytes}
    (h : IsVarint lastMax more n bytes) : bytes.length ≤ more + 1 := by
  induction h with
  | full _ => exact Nat.le_refl 1
  | last _ => exact Nat.le_add_left 1 _
  | cont _ _ ih => exact Nat.succ_le_succ ih

/-- The numbers that a varint can hold. -/
theorem IsVarint.lt {lastMax : UInt8} {more n : Nat} {bytes : Bytes}
    (h : IsVarint lastMax more n bytes) : n < (lastMax.toNat + 1) * 128 ^ more := by
  induction h with
  | full hb =>
    have := UInt8.le_iff_toNat_le.1 hb
    omega
  | @last more b hb =>
    have hlt : b.toNat < 128 := by simpa [UInt8.lt_iff_toNat_lt] using hb
    calc b.toNat < 128 * 1 := by omega
      _ ≤ 128 * ((lastMax.toNat + 1) * 128 ^ more) :=
          Nat.mul_le_mul_left _ (Nat.mul_pos (Nat.succ_pos _) (Nat.pow_pos (by decide)))
      _ = (lastMax.toNat + 1) * 128 ^ (more + 1) := by rw [Nat.pow_succ]; ac_rfl
  | @cont more n b bytes hb _ ih =>
    have hlt := b.toNat_lt
    calc b.toNat - 128 + 128 * n < 128 * (n + 1) := by omega
      _ ≤ 128 * ((lastMax.toNat + 1) * 128 ^ more) := Nat.mul_le_mul_left _ ih
      _ = (lastMax.toNat + 1) * 128 ^ (more + 1) := by rw [Nat.pow_succ]; ac_rfl

/-- **A written number is a varint**, as long as there is room for it. -/
theorem isVarint_putVarint {lastMax : UInt8} (hmax : lastMax.toNat < 128) {more n : Nat}
    (h : n < (lastMax.toNat + 1) * 128 ^ more) : IsVarint lastMax more n (putVarint n) := by
  have hbyte : ∀ m, m < 256 → (UInt8.ofNat m).toNat = m := fun m hm => Utf8.byte_toNat hm
  induction more generalizing n with
  | zero =>
    have hn : (UInt8.ofNat n).toNat = n := hbyte n (by omega)
    have hfull : IsVarint lastMax 0 (UInt8.ofNat n).toNat [UInt8.ofNat n] :=
      .full (by rw [UInt8.le_iff_toNat_le, hn]; omega)
    rw [hn] at hfull
    rwa [putVarint, if_pos (by omega)]
  | succ more ih =>
    rw [putVarint]
    split
    · next hlt =>
      have hn : (UInt8.ofNat n).toNat = n := hbyte n (by omega)
      have hlast : IsVarint lastMax (more + 1) (UInt8.ofNat n).toNat [UInt8.ofNat n] :=
        .last (by rw [UInt8.lt_iff_toNat_lt, hn]; exact hlt)
      rwa [hn] at hlast
    · next hge =>
      have hn : (UInt8.ofNat (n % 128 + 128)).toNat = n % 128 + 128 := hbyte _ (by omega)
      have hrest : n / 128 < (lastMax.toNat + 1) * 128 ^ more := by
        rw [Nat.div_lt_iff_lt_mul (by decide), Nat.mul_assoc, ← Nat.pow_succ]
        exact h
      have hcont := IsVarint.cont (b := UInt8.ofNat (n % 128 + 128))
        (by rw [UInt8.lt_iff_toNat_lt, hn]; simp) (ih hrest)
      rwa [hn, show n % 128 + 128 - 128 + 128 * (n / 128) = n by omega] at hcont

theorem isVarint64_putVarint {n : Nat} (h : n < 2 ^ 64) : IsVarint64 n (putVarint n) :=
  isVarint_putVarint (by decide) h

theorem isVarint32_putVarint {n : Nat} (h : n < 2 ^ 32) : IsVarint32 n (putVarint n) :=
  isVarint_putVarint (by decide) h

/-! ### Values of one varint -/

/-- The bytes of a truth value. -/
def IsBool (b : Bool) (bytes : Bytes) : Prop := ∃ n, IsVarint64 n bytes ∧ (n != 0) = b

/-- The number with sign that `n` stands for in two's complement of 64 bits. -/
def toSigned (n : Nat) : Int := if n < 2 ^ 63 then n else (n : Int) - 2 ^ 64

/-- The bytes of a number of 32 bits with sign. -/
def IsInt32 (n : Int) (bytes : Bytes) : Prop :=
  ∃ m, IsVarint64 m bytes ∧ toSigned m = n ∧ -(2 ^ 31) ≤ n ∧ n < 2 ^ 31

theorem bool_accepts : Accepts bool IsBool := by
  intro bytes b rest
  rw [bool, bind_eq_ok_iff]
  constructor
  · rintro ⟨⟨n, rest'⟩, hn, h⟩
    obtain ⟨rfl, rfl⟩ := Prod.mk.inj (Except.ok.inj h)
    obtain ⟨front, hfront, rfl⟩ := varint64_accepts.sound hn
    exact ⟨front, ⟨n, hfront, rfl⟩, rfl⟩
  · rintro ⟨front, ⟨n, hfront, rfl⟩, rfl⟩
    exact ⟨(n, rest), varint64_accepts.complete hfront rest, rfl⟩

theorem int32_accepts : Accepts int32 IsInt32 := by
  intro bytes n rest
  rw [int32, bind_eq_ok_iff]
  constructor
  · rintro ⟨⟨m, rest'⟩, hm, h⟩
    change (if -(2 ^ 31) ≤ toSigned m ∧ toSigned m < 2 ^ 31 then _ else _) = _ at h
    split at h
    · next hfits =>
      obtain ⟨rfl, rfl⟩ := Prod.mk.inj (Except.ok.inj h)
      obtain ⟨front, hfront, rfl⟩ := varint64_accepts.sound hm
      exact ⟨front, ⟨m, hfront, rfl, hfits⟩, rfl⟩
    · cases h
  · rintro ⟨front, ⟨m, hfront, rfl, hfits⟩, rfl⟩
    refine ⟨(m, rest), varint64_accepts.complete hfront rest, ?_⟩
    change (if -(2 ^ 31) ≤ toSigned m ∧ toSigned m < 2 ^ 31 then _ else _) = _
    rw [if_pos hfits]
    rfl

/-! ### Blocks -/

/-- The bytes of a block: the length of its content, and the content. -/
def IsBlock (content bytes : Bytes) : Prop :=
  ∃ size, IsVarint32 content.length size ∧ bytes = size ++ content

/-- The bytes of a text. -/
def IsText (s : String) (bytes : Bytes) : Prop := IsBlock (Utf8.encode s) bytes

theorem block_accepts (room : Room) : Accepts (block room) IsBlock := by
  intro bytes content rest
  rw [block, bind_eq_ok_iff]
  constructor
  · rintro ⟨⟨n, rest'⟩, hn, h⟩
    dsimp only at h
    obtain ⟨size, hsize, rfl⟩ := varint32_accepts.sound hn
    split at h
    · next parts hparts =>
      obtain rfl := Except.ok.inj h
      obtain ⟨rfl, rfl⟩ := Bytes.splitExactly_eq_some_iff.1 hparts
      exact ⟨size ++ content, ⟨size, hsize, rfl⟩, by rw [List.append_assoc]⟩
    · split at h
      · cases h
      · split at h
        · split at h <;> cases h
        · cases h
  · rintro ⟨front, ⟨size, hsize, rfl⟩, rfl⟩
    refine ⟨(content.length, content ++ rest), ?_, ?_⟩
    · rw [List.append_assoc]
      exact varint32_accepts.complete hsize _
    · simp

theorem text_accepts (room : Room) : Accepts (text room) IsText := by
  intro bytes s rest
  rw [text, bind_eq_ok_iff]
  constructor
  · rintro ⟨⟨content, rest'⟩, hcontent, h⟩
    dsimp only at h
    split at h
    · next t ht =>
      obtain ⟨rfl, rfl⟩ := Prod.mk.inj (Except.ok.inj h)
      obtain rfl := Utf8.decode_eq_some_iff.1 ht
      exact (block_accepts room _ _ _).1 hcontent
    · cases h
  · intro h
    refine ⟨(Utf8.encode s, rest), (block_accepts room _ _ _).2 h, ?_⟩
    simp [Utf8.decode_eq_some_iff.2 rfl]

theorem isBlock_putBlock {content : Bytes} (h : content.length < 2 ^ 32) :
    IsBlock content (putBlock content) :=
  ⟨_, isVarint32_putVarint h, rfl⟩

theorem IsBlock.length_le {content bytes : Bytes} (h : IsBlock content bytes) :
    content.length ≤ bytes.length := by
  obtain ⟨size, -, rfl⟩ := h
  simp

/-! ### Values that are passed over -/

/-- The bytes of a value of a wire type. -/
def IsSkipped (wireType : Nat) (bytes : Bytes) : Prop :=
  match wireType with
  | 0 => ∃ n, IsVarint64 n bytes
  | 1 => bytes.length = 8
  | 2 => ∃ content, IsBlock content bytes
  | 5 => bytes.length = 4
  | _ => False

theorem fixed_accepts (n : Nat) :
    Accepts (fixed n) fun content bytes => content = bytes ∧ bytes.length = n := by
  intro bytes content rest
  unfold fixed
  constructor
  · intro h
    split at h
    · next parts hparts =>
      obtain rfl := Except.ok.inj h
      obtain ⟨rfl, hlen⟩ := Bytes.splitExactly_eq_some_iff.1 hparts
      exact ⟨content, ⟨rfl, hlen⟩, rfl⟩
    · cases h
  · rintro ⟨front, ⟨rfl, rfl⟩, rfl⟩
    simp

theorem skip_eq_ok_iff {room : Room} {wireType : Nat} {bytes rest : Bytes} :
    skip room wireType bytes = .ok rest ↔
      ∃ front, IsSkipped wireType front ∧ bytes = front ++ rest := by
  -- For each wire type this is what is known of its reader, with the value left out.
  have key : ∀ {β : Type} {read : Bytes → Except Fault (β × Bytes)} {P : β → Bytes → Prop},
      Accepts read P → ((read bytes).map (·.2) = .ok rest ↔
        ∃ front, (∃ x, P x front) ∧ bytes = front ++ rest) := by
    intro β read P hread
    rw [map_eq_ok_iff]
    constructor
    · rintro ⟨⟨x, _⟩, hx, rfl⟩
      obtain ⟨front, hfront, rfl⟩ := hread.sound hx
      exact ⟨front, ⟨x, hfront⟩, rfl⟩
    · rintro ⟨front, ⟨x, hfront⟩, hbytes⟩
      exact ⟨(x, rest), (hread _ _ _).2 ⟨front, hfront, hbytes⟩, rfl⟩
  unfold skip IsSkipped
  split
  · exact key varint64_accepts
  · exact (key (fixed_accepts 8)).trans (by simp)
  · exact key (block_accepts room)
  · exact (key (fixed_accepts 4)).trans (by simp)
  · simp

/-! ### One field after the other -/

/-- Reading fields one after the other leads from the first bytes to the last, with these fields. -/
inductive Steps (read : Bytes → Except ε (α × Bytes)) : Bytes → List α → Bytes → Prop
  /-- Nothing has been read. -/
  | done {bytes : Bytes} : Steps read bytes [] bytes
  /-- One more field is read in front. -/
  | step {bytes mid rest : Bytes} {x : α} {xs : List α} : read bytes = .ok (x, mid) →
      Steps read mid xs rest → Steps read bytes (x :: xs) rest

/-- Pieces of bytes that a predicate describes, one after the other. -/
inductive Sequence (P : α → Bytes → Prop) : List α → Bytes → Prop
  /-- No piece. -/
  | nil : Sequence P [] []
  /-- One more piece in front. -/
  | cons {x : α} {xs : List α} {front rest : Bytes} : P x front → Sequence P xs rest →
      Sequence P (x :: xs) (front ++ rest)

/-- What a reader leaves is shorter than what it was given. -/
def Consumes (read : Bytes → Except ε (α × Bytes)) : Prop :=
  ∀ bytes x rest, read bytes = .ok (x, rest) → rest.length < bytes.length

variable {read : Bytes → Except ε (α × Bytes)} {P : α → Bytes → Prop} {stuck : ε}

theorem Accepts.consumes (h : Accepts read P) (hne : ∀ x bytes, P x bytes → bytes ≠ []) :
    Consumes read := by
  intro bytes x rest hx
  obtain ⟨front, hfront, rfl⟩ := h.sound hx
  have := List.length_pos_iff.2 (hne x front hfront)
  rw [List.length_append]
  omega

theorem Accepts.steps_iff (h : Accepts read P) {bytes rest : Bytes} {xs : List α} :
    Steps read bytes xs rest ↔ ∃ front, Sequence P xs front ∧ bytes = front ++ rest := by
  constructor
  · intro hsteps
    induction hsteps with
    | done => exact ⟨[], .nil, rfl⟩
    | step hx _ ih =>
      obtain ⟨front, hfront, rfl⟩ := h.sound hx
      obtain ⟨fronts, hfronts, rfl⟩ := ih
      exact ⟨front ++ fronts, .cons hfront hfronts, by rw [List.append_assoc]⟩
  · rintro ⟨front, hfront, rfl⟩
    induction hfront with
    | nil => exact .done
    | cons hx _ ih => exact .step (by rw [List.append_assoc]; exact h.complete hx _) ih

theorem Sequence.append {xs ys : List α} {front rest : Bytes} (h : Sequence P xs front)
    (h' : Sequence P ys rest) : Sequence P (xs ++ ys) (front ++ rest) := by
  induction h with
  | nil => exact h'
  | cons hx _ ih =>
    rw [List.append_assoc]
    exact .cons hx ih

theorem Sequence.singleton {x : α} {bytes : Bytes} (h : P x bytes) : Sequence P [x] bytes := by
  simpa using Sequence.cons h .nil

/-- The first fields are read in the same way when no more of them are asked for. -/
theorem Steps.take {bytes rest : Bytes} {xs : List α} (h : Steps read bytes xs rest) (n : Nat) :
    ∃ mid, Steps read bytes (xs.take n) mid := by
  induction h generalizing n with
  | @done bytes => exact ⟨bytes, by rw [List.take_nil]; exact .done⟩
  | @step bytes _ _ _ _ hx _ ih =>
    cases n with
    | zero => exact ⟨bytes, .done⟩
    | succ n =>
      obtain ⟨mid, hmid⟩ := ih n
      exact ⟨mid, .step hx hmid⟩

/-- The fields that have been read determine what is left. -/
theorem Steps.rest_unique {bytes rest rest' : Bytes} {xs : List α} (h : Steps read bytes xs rest)
    (h' : Steps read bytes xs rest') : rest = rest' := by
  induction h with
  | done =>
    cases h'
    rfl
  | step hx _ ih =>
    cases h' with
    | step hx' hrest =>
      rw [hx] at hx'
      obtain ⟨-, rfl⟩ := Prod.mk.inj (Except.ok.inj hx')
      exact ih hrest

/-- Bytes that follow are left over. -/
theorem Accepts.steps_append (h : Accepts read P) {bytes rest : Bytes} {xs : List α}
    (hsteps : Steps read bytes xs rest) (more : Bytes) :
    Steps read (bytes ++ more) xs (rest ++ more) := by
  obtain ⟨front, hfront, rfl⟩ := h.steps_iff.1 hsteps
  exact h.steps_iff.2 ⟨front, hfront, List.append_assoc front rest more⟩

/-- Every field has been read somewhere. -/
theorem Steps.exists_of_mem (h : Consumes read) {bytes rest : Bytes} {xs : List α}
    (hsteps : Steps read bytes xs rest) {x : α} (hx : x ∈ xs) :
    ∃ mid after, read mid = .ok (x, after) ∧ mid.length ≤ bytes.length := by
  induction hsteps with
  | done => cases hx
  | @step bytes mid _ y _ hy _ ih =>
    rcases List.mem_cons.1 hx with rfl | hx
    · exact ⟨bytes, mid, hy, Nat.le_refl _⟩
    · obtain ⟨mid', after, hread, hle⟩ := ih hx
      exact ⟨mid', after, hread, Nat.le_trans hle (Nat.le_of_lt (h _ _ _ hy))⟩

/-- Reading to the end goes through every place that reading comes to. -/
theorem Steps.end_iff (h : Consumes read) {bytes mid : Bytes} {xs zs : List α}
    (hsteps : Steps read bytes xs mid) :
    Steps read bytes zs [] ↔ ∃ ys, Steps read mid ys [] ∧ zs = xs ++ ys := by
  induction hsteps generalizing zs with
  | done => simp
  | @step bytes mid _ x xs hx _ ih =>
    constructor
    · intro hzs
      cases hzs with
      | done => exact absurd (h _ _ _ hx) (Nat.not_lt_zero _)
      | step hx' hrest =>
        rw [hx] at hx'
        obtain ⟨rfl, rfl⟩ := Prod.mk.inj (Except.ok.inj hx')
        obtain ⟨ys, hys, rfl⟩ := ih.1 hrest
        exact ⟨ys, hys, rfl⟩
    · rintro ⟨ys, hys, rfl⟩
      exact .step hx (ih.2 ⟨ys, hys, rfl⟩)

/-- The fuel that is left over does not matter. -/
theorem readAll_congr (h : Consumes read) {bytes : Bytes} (fuel fuel' : Nat)
    (hfuel : bytes.length ≤ fuel) (hfuel' : bytes.length ≤ fuel') :
    readAll stuck read fuel bytes = readAll stuck read fuel' bytes := by
  induction fuel generalizing fuel' bytes with
  | zero =>
    obtain rfl := List.length_eq_zero_iff.1 (Nat.le_zero.1 hfuel)
    simp [readAll]
  | succ fuel ih =>
    cases bytes with
    | nil => simp [readAll]
    | cons b bytes =>
      cases fuel' with
      | zero => simp at hfuel'
      | succ fuel' =>
        rw [readAll, readAll]
        cases hx : read (b :: bytes) with
        | error e => rfl
        | ok parts =>
          have hlt : parts.2.length < (b :: bytes).length := h _ parts.1 parts.2 hx
          rw [List.length_cons] at hlt hfuel hfuel'
          simp only [ok_bind]
          rw [ih fuel' (by omega) (by omega)]

theorem readAll_of_step (h : Consumes read) {bytes rest : Bytes} {x : α}
    (hx : read bytes = .ok (x, rest)) :
    readAll stuck read bytes.length bytes =
      (readAll stuck read rest.length rest).map (x :: ·) := by
  have hlt := h _ _ _ hx
  cases bytes with
  | nil => simp at hlt
  | cons b bytes =>
    rw [List.length_cons] at hlt ⊢
    rw [readAll, hx]
    simp only [ok_bind]
    rw [readAll_congr h _ rest.length (by omega) (by omega)]
    cases readAll stuck read rest.length rest <;> rfl

/-- **Reading goes on from where it has come to**, with the fields so far in front. -/
theorem readAll_of_steps (h : Consumes read) {bytes rest : Bytes} {xs : List α}
    (hsteps : Steps read bytes xs rest) :
    readAll stuck read bytes.length bytes =
      (readAll stuck read rest.length rest).map (xs ++ ·) := by
  induction hsteps with
  | done => cases readAll stuck read _ _ <;> rfl
  | step hx _ ih =>
    rw [readAll_of_step h hx, ih]
    cases readAll stuck read _ _ <;> rfl

theorem readAll_eq_ok_iff (h : Consumes read) {bytes : Bytes} {xs : List α} :
    readAll stuck read bytes.length bytes = .ok xs ↔ Steps read bytes xs [] := by
  constructor
  · intro hxs
    induction xs generalizing bytes with
    | nil =>
      cases bytes with
      | nil => exact .done
      | cons b bytes =>
        rw [List.length_cons, readAll, bind_eq_ok_iff] at hxs
        obtain ⟨⟨x, rest⟩, -, hxs⟩ := hxs
        obtain ⟨ys, -, hys⟩ := bind_eq_ok_iff.1 hxs
        cases hys
    | cons y ys ih =>
      cases bytes with
      | nil => simp [readAll] at hxs
      | cons b bytes =>
        cases hx : read (b :: bytes) with
        | error e => simp [readAll, hx] at hxs
        | ok parts =>
          obtain ⟨x, rest⟩ := parts
          rw [readAll_of_step h hx, map_eq_ok_iff] at hxs
          obtain ⟨zs, hzs, heq⟩ := hxs
          obtain ⟨rfl, rfl⟩ := List.cons.inj heq
          exact .step hx (ih hzs)
  · intro hsteps
    rw [readAll_of_steps h hsteps]
    simp [readAll]

end BrokerAdmin.Wire
