import BrokerAdmin.Proofs.Json.Strings

/-!
# The grammar of JSON strings

What may stand between the quotes of a string, and which text it stands for, is said here without the
reader: a byte as it stands, a short escape, or an escape of four hexadecimal digits. The two passes
of the reader are then shown to take exactly such strings and to give exactly their texts.

A character beyond U+FFFF is written as a pair of escapes. The two numbers of a pair are said in terms
of the character, so an escape that is half of a pair stands for none.

## Main definitions

* `Document.ArePieces`: the text of the pieces of a string.
* `Document.Denotes`: the bytes that pieces stand for.
* `Document.IsString`: the text of a string, quotes included.

## Main results

* `Document.scanPieces_eq_ok_iff`, `Document.pieceBytes_eq_ok_iff`: the two passes.
* `Document.scanString_eq_ok_iff`: strings are read.
-/

namespace BrokerAdmin.Json.Document

open Utf8 Result

/-! ### Escapes -/

/-- A short escape: the byte behind the backslash, and the byte that is meant. -/
inductive IsShortEscape : UInt8 → UInt8 → Prop
  /-- A quote. -/
  | quote : IsShortEscape 0x22 0x22
  /-- A backslash. -/
  | backslash : IsShortEscape 0x5C 0x5C
  /-- A slash. -/
  | slash : IsShortEscape 0x2F 0x2F
  /-- `\b` is a backspace. -/
  | backspace : IsShortEscape 0x62 0x08
  /-- `\f` is a form feed. -/
  | formFeed : IsShortEscape 0x66 0x0C
  /-- `\n` is a line feed. -/
  | lineFeed : IsShortEscape 0x6E 0x0A
  /-- `\r` is a carriage return. -/
  | carriageReturn : IsShortEscape 0x72 0x0D
  /-- `\t` is a tab. -/
  | tab : IsShortEscape 0x74 0x09

theorem shortEscape_eq_some_iff {e b : UInt8} : shortEscape e = some b ↔ IsShortEscape e b := by
  constructor
  · intro h
    rw [shortEscape] at h
    split at h
    · next hself =>
      simp only [Bool.or_eq_true, decide_eq_true_eq] at hself
      obtain rfl := Option.some.inj h
      rcases hself with (rfl | rfl) | rfl
      · exact .quote
      · exact .backslash
      · exact .slash
    · split_ifs at h with hb hf hn hr ht <;> obtain rfl := Option.some.inj h <;> subst_vars
      · exact .backspace
      · exact .formFeed
      · exact .lineFeed
      · exact .carriageReturn
      · exact .tab
  · intro h
    cases h <;> rfl

/-- A hexadecimal digit, in lower or upper case, with its value. -/
inductive IsHexDigit (n : Nat) (b : UInt8) : Prop
  /-- One of `0` to `9`. -/
  | decimal : n < 10 → b.toNat = 48 + n → IsHexDigit n b
  /-- One of `A` to `F`. -/
  | upper : 10 ≤ n → n < 16 → b.toNat = 65 + (n - 10) → IsHexDigit n b
  /-- One of `a` to `f`. -/
  | lower : 10 ≤ n → n < 16 → b.toNat = 97 + (n - 10) → IsHexDigit n b

theorem IsHexDigit.lt {n : Nat} {b : UInt8} (h : IsHexDigit n b) : n < 16 := by
  cases h <;> omega

theorem hexDigit_eq_some_iff {b : UInt8} {n : Nat} : hexDigit b = some n ↔ IsHexDigit n b := by
  simp only [hexDigit, Bool.and_eq_true, decide_eq_true_eq, UInt8.le_iff_toNat_le, UInt8.reduceToNat]
  constructor
  · intro h
    split_ifs at h with hdecimal hupper hlower <;> obtain rfl := Option.some.inj h
    · exact .decimal (by omega) (by omega)
    · exact .upper (by omega) (by omega) (by omega)
    · exact .lower (by omega) (by omega) (by omega)
  · rintro (⟨hn, hb⟩ | ⟨hlow, hn, hb⟩ | ⟨hlow, hn, hb⟩)
    · rw [if_pos (by omega), hb, Nat.add_sub_cancel_left]
    · rw [if_neg (by omega), if_pos (by omega)]
      exact congrArg some (by omega)
    · rw [if_neg (by omega), if_neg (by omega), if_pos (by omega)]
      exact congrArg some (by omega)

theorem hexUnit_eq_some_iff {a b c d : UInt8} {n : Nat} : hexUnit a b c d = some n ↔
    ∃ i j k l, IsHexDigit i a ∧ IsHexDigit j b ∧ IsHexDigit k c ∧ IsHexDigit l d ∧
      n = i * 4096 + j * 256 + k * 16 + l := by
  simp only [hexUnit, Option.bind_eq_bind, Option.bind_eq_some_iff, hexDigit_eq_some_iff,
    Option.some.injEq]
  constructor
  · rintro ⟨i, hi, j, hj, k, hk, l, hl, rfl⟩
    exact ⟨i, j, k, l, hi, hj, hk, hl, rfl⟩
  · rintro ⟨i, j, k, l, hi, hj, hk, hl, rfl⟩
    exact ⟨i, hi, j, hj, k, hk, l, hl, rfl⟩

/-! ### Pieces -/

/-- The text of the pieces of a string: bytes as they stand, short escapes, and escapes of four
hexadecimal digits. -/
inductive ArePieces : List Piece → Bytes → Prop
  /-- There are none. -/
  | nil : ArePieces [] []
  /-- A byte as it stands. -/
  | plain {b : UInt8} {pieces : List Piece} {bytes : Bytes} : IsPlain b → ArePieces pieces bytes →
      ArePieces (.byte b :: pieces) (b :: bytes)
  /-- A short escape. -/
  | short {e b : UInt8} {pieces : List Piece} {bytes : Bytes} : IsShortEscape e b →
      ArePieces pieces bytes → ArePieces (.byte b :: pieces) (0x5C :: e :: bytes)
  /-- A number. -/
  | unit {a b c d : UInt8} {i j k l : Nat} {pieces : List Piece} {bytes : Bytes} :
      IsHexDigit i a → IsHexDigit j b → IsHexDigit k c → IsHexDigit l d → ArePieces pieces bytes →
      ArePieces (.unit (i * 4096 + j * 256 + k * 16 + l) :: pieces)
        (0x5C :: 0x75 :: a :: b :: c :: d :: bytes)

/-- Four digits make a number of sixteen bits. -/
theorem ArePieces.unit_lt {pieces : List Piece} {bytes : Bytes} (h : ArePieces pieces bytes)
    {n : Nat} (hn : .unit n ∈ pieces) : n < 0x10000 := by
  induction h with
  | nil => cases hn
  | plain _ _ ih => exact ih (by simpa using hn)
  | short _ _ ih => exact ih (by simpa using hn)
  | unit hi hj hk hl _ ih =>
    rcases List.mem_cons.1 hn with heq | hn
    · have := hi.lt
      have := hj.lt
      have := hk.lt
      have := hl.lt
      obtain rfl := Piece.unit.inj heq
      omega
    · exact ih hn

/-- Pieces are scanned, whatever follows them. -/
theorem scanPieces_of_arePieces {pieces : List Piece} {bytes : Bytes} (h : ArePieces pieces bytes)
    (rest : Bytes) :
    scanPieces (bytes ++ rest) = (pieces ++ (scanPieces rest).1, (scanPieces rest).2) := by
  induction h with
  | nil => rfl
  | plain hb _ ih => rw [List.cons_append, scanPieces_of_isPlain hb, ih, List.cons_append]
  | short he _ ih =>
    simp only [List.cons_append]
    rw [scanPieces_shortEscape (shortEscape_eq_some_iff.2 he), ih]
  | unit ha hb hc hd _ ih =>
    simp only [List.cons_append]
    rw [scanPieces_unit (hexUnit_eq_some_iff.2 ⟨_, _, _, _, ha, hb, hc, hd, rfl⟩), ih]

/-- What is scanned up to a quote are pieces. -/
theorem exists_arePieces_of_scan {bytes rest : Bytes} (h : (scanPieces bytes).2 = .ok rest) :
    ∃ front, ArePieces (scanPieces bytes).1 front ∧ bytes = front ++ 0x22 :: rest := by
  fun_induction scanPieces bytes with
  | case1 | case4 | case5 | case7 | case8 | case9 => cases h
  | case2 tail =>
    obtain rfl := Except.ok.inj h
    exact ⟨[], .nil, rfl⟩
  | case3 a b c d tail n hunit pieces out hscan ih =>
    rw [hscan] at ih
    obtain ⟨front, hfront, rfl⟩ := ih h
    obtain ⟨i, j, k, l, ha, hb, hc, hd, rfl⟩ := hexUnit_eq_some_iff.1 hunit
    exact ⟨_, .unit ha hb hc hd hfront, rfl⟩
  | case6 e tail _ _ b hshort pieces out hscan ih =>
    rw [hscan] at ih
    obtain ⟨front, hfront, rfl⟩ := ih h
    exact ⟨_, .short (shortEscape_eq_some_iff.1 hshort) hfront, rfl⟩
  | case10 b tail hquote _ _ hescape hend hlow pieces out hscan ih =>
    have hslash : b ≠ 0x5C := fun hb => by
      cases tail with
      | nil => exact hend hb rfl
      | cons e tail => exact hescape e tail hb rfl
    have hplain : IsPlain b :=
      ⟨Nat.not_lt.1 fun hlt => hlow (UInt8.lt_iff_toNat_lt.2 hlt), hquote, hslash⟩
    rw [hscan] at ih
    obtain ⟨front, hfront, rfl⟩ := ih h
    exact ⟨_, .plain hplain hfront, rfl⟩

/-- **The first pass over a string** takes its pieces, up to the first quote that is none of them. -/
theorem scanPieces_eq_ok_iff {bytes rest : Bytes} {pieces : List Piece} :
    scanPieces bytes = (pieces, .ok rest) ↔
      ∃ front, ArePieces pieces front ∧ bytes = front ++ 0x22 :: rest := by
  constructor
  · intro h
    have hfront := exists_arePieces_of_scan (congrArg Prod.snd h)
    rwa [h] at hfront
  · rintro ⟨front, hfront, rfl⟩
    have hclose : scanPieces (0x22 :: rest) = ([], .ok rest) := by rw [scanPieces]
    rw [scanPieces_of_arePieces hfront, hclose, List.append_nil]

/-! ### What pieces stand for -/

/-- The bytes that pieces stand for. An escape stands for the character that has its number, and one
beyond U+FFFF takes two, which share the ten upper and the ten lower bits of what it is beyond. -/
inductive Denotes : List Piece → Bytes → Prop
  /-- There are none. -/
  | nil : Denotes [] []
  /-- A byte. -/
  | byte {b : UInt8} {pieces : List Piece} {bytes : Bytes} : Denotes pieces bytes →
      Denotes (.byte b :: pieces) (b :: bytes)
  /-- A character by its number. -/
  | unit {c : Char} {pieces : List Piece} {bytes : Bytes} : c.toNat < 0x10000 →
      Denotes pieces bytes → Denotes (.unit c.toNat :: pieces) (encodeChar c ++ bytes)
  /-- A character by two numbers. -/
  | pair {c : Char} {pieces : List Piece} {bytes : Bytes} : 0x10000 ≤ c.toNat →
      Denotes pieces bytes →
      Denotes (.unit (0xD800 + (c.toNat - 0x10000) / 1024) ::
        .unit (0xDC00 + (c.toNat - 0x10000) % 1024) :: pieces) (encodeChar c ++ bytes)

theorem isLeadSurrogate_iff {n : Nat} : isLeadSurrogate n = true ↔ 0xD800 ≤ n ∧ n ≤ 0xDBFF := by
  simp [isLeadSurrogate]

theorem isTailSurrogate_iff {n : Nat} : isTailSurrogate n = true ↔ 0xDC00 ≤ n ∧ n ≤ 0xDFFF := by
  simp [isTailSurrogate]

theorem pieceBytes_pair (flaw : Flaw) {n m : Nat} (hn : isLeadSurrogate n = true)
    (hm : isTailSurrogate m = true) (rest : List Piece) :
    pieceBytes flaw (.unit n :: .unit m :: rest) = (pieceBytes flaw rest).map
      (encodeChar (Char.ofNat (0x10000 + (n - 0xD800) * 1024 + (m - 0xDC00))) ++ ·) := by
  have htail : ¬ isTailSurrogate n = true := by
    rw [isLeadSurrogate_iff] at hn
    rw [isTailSurrogate_iff]
    omega
  rw [pieceBytes, if_neg htail, if_pos hn, if_pos hm]

theorem pieceBytes_of_denotes (flaw : Flaw) {pieces : List Piece} {bytes : Bytes}
    (h : Denotes pieces bytes) : pieceBytes flaw pieces = .ok bytes := by
  induction h with
  | nil => rw [pieceBytes]
  | byte _ ih => rw [pieceBytes_byte, ih, map_ok]
  | @unit c pieces bytes hc _ ih =>
    have hvalid := toNat_valid c
    rw [pieceBytes_unit flaw (by omega), ih, map_ok, Char.ofNat_toNat]
  | @pair c pieces bytes hc _ ih =>
    have hvalid := toNat_valid c
    have hchar : 0x10000 + (0xD800 + (c.toNat - 0x10000) / 1024 - 0xD800) * 1024 +
        (0xDC00 + (c.toNat - 0x10000) % 1024 - 0xDC00) = c.toNat := by omega
    rw [pieceBytes_pair flaw (isLeadSurrogate_iff.2 (by omega)) (isTailSurrogate_iff.2 (by omega)),
      ih, map_ok, hchar, Char.ofNat_toNat]

theorem denotes_of_pieceBytes {flaw : Flaw} {pieces : List Piece} {bytes : Bytes}
    (hsmall : ∀ n, .unit n ∈ pieces → n < 0x10000) (h : pieceBytes flaw pieces = .ok bytes) :
    Denotes pieces bytes := by
  have hchar : ∀ {n}, n < 0x10000 → ¬ isTailSurrogate n = true → ¬ isLeadSurrogate n = true →
      (Char.ofNat n).toNat = n := by
    intro n hn htail hlead
    rw [isTailSurrogate_iff] at htail
    rw [isLeadSurrogate_iff] at hlead
    exact toNat_ofNat (by omega)
  -- An escape that is no surrogate, with anything behind it.
  have hunit : ∀ {n pieces bytes}, n < 0x10000 → ¬ isTailSurrogate n = true →
      ¬ isLeadSurrogate n = true → Denotes pieces bytes →
      Denotes (.unit n :: pieces) (encodeChar (Char.ofNat n) ++ bytes) := by
    intro n pieces bytes hn htail hlead hpieces
    have hdenotes := Denotes.unit (c := Char.ofNat n) (by rwa [hchar hn htail hlead]) hpieces
    rwa [hchar hn htail hlead] at hdenotes
  fun_induction pieceBytes flaw pieces generalizing bytes with
  | case1 =>
    obtain rfl := Except.ok.inj h
    exact .nil
  | case2 b rest ih =>
    obtain ⟨content, hcontent, rfl⟩ := map_eq_ok_iff.1 h
    exact .byte (ih (fun n hn => hsmall n (List.mem_cons_of_mem _ hn)) hcontent)
  | case3 | case4 | case6 | case8 | case10 => cases h
  | case5 n htail hlead =>
    obtain rfl := Except.ok.inj h
    have hdenotes := hunit (hsmall n List.mem_cons_self) htail hlead .nil
    rwa [List.append_nil] at hdenotes
  | case7 n b rest hnot ih =>
    obtain ⟨content, hcontent, rfl⟩ := map_eq_ok_iff.1 h
    rw [Bool.or_eq_true, not_or] at hnot
    exact hunit (hsmall n List.mem_cons_self) hnot.1 hnot.2
      (ih (fun n hn => hsmall n (List.mem_cons_of_mem _ hn)) hcontent)
  | case9 n m rest _ hlead htail ih =>
    obtain ⟨content, hcontent, rfl⟩ := map_eq_ok_iff.1 h
    have hrest := ih (fun k hk => hsmall k (List.mem_cons_of_mem _ (List.mem_cons_of_mem _ hk)))
      hcontent
    rw [isLeadSurrogate_iff] at hlead
    rw [isTailSurrogate_iff] at htail
    obtain ⟨k, hk⟩ : ∃ k, k = 0x10000 + (n - 0xD800) * 1024 + (m - 0xDC00) := ⟨_, rfl⟩
    have hnumber : (Char.ofNat k).toNat = k := toNat_ofNat (by omega)
    have hpair := Denotes.pair (c := Char.ofNat k) (by omega) hrest
    have hn : 0xD800 + (k - 0x10000) / 1024 = n := by omega
    have hm : 0xDC00 + (k - 0x10000) % 1024 = m := by omega
    rwa [hnumber, hn, hm, hk] at hpair
  | case11 n m rest htail hlead ih =>
    obtain ⟨content, hcontent, rfl⟩ := map_eq_ok_iff.1 h
    exact hunit (hsmall n List.mem_cons_self) htail hlead
      (ih (fun n hn => hsmall n (List.mem_cons_of_mem _ hn)) hcontent)

/-- **The second pass over a string** gives the bytes that its pieces stand for. -/
theorem pieceBytes_eq_ok_iff {flaw : Flaw} {pieces : List Piece} {text bytes : Bytes}
    (h : ArePieces pieces text) : pieceBytes flaw pieces = .ok bytes ↔ Denotes pieces bytes :=
  ⟨denotes_of_pieceBytes fun _ => h.unit_lt, pieceBytes_of_denotes flaw⟩

/-! ### Strings -/

/-- The text that pieces stand for, if there is one. -/
def textOf (pieces : List Piece) : Option String :=
  (pieceBytes .malformed pieces).toOption.bind Utf8.decode

theorem textOf_eq_some_iff {pieces : List Piece} {content : Bytes} (h : ArePieces pieces content)
    {s : String} : textOf pieces = some s ↔ Denotes pieces (encode s) := by
  simp only [textOf, Option.bind_eq_some_iff, toOption_eq_some_iff, decode_eq_some_iff,
    pieceBytes_eq_ok_iff h]
  constructor
  · rintro ⟨bytes, hbytes, rfl⟩
    exact hbytes
  · exact fun hbytes => ⟨_, hbytes, rfl⟩

theorem scanString_of_scanPieces {bytes rest : Bytes} {pieces : List Piece}
    (h : scanPieces bytes = (pieces, .ok rest)) : scanString bytes = .ok (textOf pieces, rest) := by
  rw [scanString, h, textOf]
  dsimp only
  cases pieceBytes .malformed pieces <;> rfl

theorem exists_scanPieces_of_scanString {bytes rest : Bytes} {text : Option String}
    (h : scanString bytes = .ok (text, rest)) :
    ∃ pieces, scanPieces bytes = (pieces, .ok rest) ∧ text = textOf pieces := by
  rcases hscan : scanPieces bytes with ⟨pieces, out⟩
  cases out with
  | ok rest' =>
    rw [scanString_of_scanPieces hscan] at h
    obtain ⟨rfl, rfl⟩ := Prod.mk.inj (Except.ok.inj h)
    exact ⟨pieces, rfl, rfl⟩
  | error flaw =>
    rw [scanString, hscan] at h
    dsimp only at h
    split at h <;> cases h

/-- The text of a string, quotes included. It stands for a text if its pieces stand for the bytes of
one. -/
def IsString (text : Option String) (bytes : Bytes) : Prop :=
  ∃ pieces content, ArePieces pieces content ∧ (∀ s, text = some s ↔ Denotes pieces (encode s)) ∧
    bytes = 0x22 :: (content ++ [0x22])

/-- **Strings are read**, whatever follows them. -/
theorem scanString_eq_ok_iff {bytes rest : Bytes} {text : Option String} :
    scanString bytes = .ok (text, rest) ↔
      ∃ front, IsString text (0x22 :: front) ∧ bytes = front ++ rest := by
  constructor
  · intro h
    obtain ⟨pieces, hscan, rfl⟩ := exists_scanPieces_of_scanString h
    obtain ⟨front, hfront, rfl⟩ := scanPieces_eq_ok_iff.1 hscan
    exact ⟨front ++ [0x22], ⟨pieces, front, hfront, fun s => textOf_eq_some_iff hfront, rfl⟩,
      by simp⟩
  · rintro ⟨front, ⟨pieces, content, hpieces, htext, heq⟩, rfl⟩
    obtain rfl := (List.cons.inj heq).2
    have hscan : scanPieces (content ++ [0x22] ++ rest) = (pieces, .ok rest) :=
      scanPieces_eq_ok_iff.2 ⟨content, hpieces, by simp⟩
    have hsame : text = textOf pieces :=
      Option.ext fun s => (htext s).trans (textOf_eq_some_iff hpieces).symm
    rw [scanString_of_scanPieces hscan, hsame]

end BrokerAdmin.Json.Document
