import BrokerAdmin.Json.Document
import BrokerAdmin.Json.Print
import BrokerAdmin.Proofs.Result
import BrokerAdmin.Proofs.Utf8
import Mathlib.Tactic.SplitIfs

/-!
# JSON strings read back

A string is read in two passes: its bytes are cut into pieces up to the closing quote, and the pieces
are then put together, which is where pairs of escapes become one character. What is printed never
needs a pair, so each character can be followed through both passes on its own.

## Main definitions

* `Document.Spells`: the text between quotes that stands for some characters.

## Main results

* `Document.spells_escapeChar`: a character as it is printed.
* `Document.scanString_escaped`: a string reads back, whatever follows it.
-/

namespace BrokerAdmin.Json.Document

open Utf8 Result

/-! ### Pieces -/

/-- A byte that a string shows as it is. -/
def IsPlain (b : UInt8) : Prop := 0x20 ≤ b.toNat ∧ b ≠ 0x22 ∧ b ≠ 0x5C

theorem scanPieces_of_isPlain {b : UInt8} (h : IsPlain b) (rest : Bytes) :
    scanPieces (b :: rest) = (.byte b :: (scanPieces rest).1, (scanPieces rest).2) := by
  obtain ⟨hlow, hquote, hslash⟩ := h
  have hnot : ¬ b < 0x20 := by
    rw [UInt8.lt_iff_toNat_lt]
    exact Nat.not_lt.2 hlow
  rw [scanPieces.eq_def]
  split <;> simp_all

theorem scanPieces_append {bytes : Bytes} (h : ∀ b ∈ bytes, IsPlain b) (rest : Bytes) :
    scanPieces (bytes ++ rest) =
      (bytes.map .byte ++ (scanPieces rest).1, (scanPieces rest).2) := by
  induction bytes with
  | nil => rfl
  | cons b bytes ih =>
    obtain ⟨hb, hbytes⟩ := List.forall_mem_cons.1 h
    rw [List.cons_append, scanPieces_of_isPlain hb, ih hbytes]
    rfl

theorem scanPieces_shortEscape {e b : UInt8} (h : shortEscape e = some b) (rest : Bytes) :
    scanPieces (0x5C :: e :: rest) = (.byte b :: (scanPieces rest).1, (scanPieces rest).2) := by
  have hu : e ≠ 0x75 := by
    rintro rfl
    cases h
  rw [scanPieces, h]
  · exact fun _ _ _ _ _ heq => absurd heq hu
  · exact fun heq => absurd heq hu

theorem scanPieces_unit {a b c d : UInt8} {n : Nat} (h : hexUnit a b c d = some n) (rest : Bytes) :
    scanPieces (0x5C :: 0x75 :: a :: b :: c :: d :: rest) =
      (.unit n :: (scanPieces rest).1, (scanPieces rest).2) := by
  rw [scanPieces, h]

theorem pieceBytes_byte (flaw : Flaw) (b : UInt8) (rest : List Piece) :
    pieceBytes flaw (.byte b :: rest) = (pieceBytes flaw rest).map (b :: ·) := by
  rw [pieceBytes]

theorem pieceBytes_unit (flaw : Flaw) {n : Nat} (h : n < 0xD800 ∨ 0xDFFF < n) (rest : List Piece) :
    pieceBytes flaw (.unit n :: rest) =
      (pieceBytes flaw rest).map (encodeChar (Char.ofNat n) ++ ·) := by
  have hlead : isLeadSurrogate n = false := by simp [isLeadSurrogate]; omega
  have htail : isTailSurrogate n = false := by simp [isTailSurrogate]; omega
  cases rest with
  | nil => simp [pieceBytes, hlead, htail]
  | cons piece rest => cases piece <;> simp [pieceBytes, hlead, htail]

theorem pieceBytes_map_byte (flaw : Flaw) (bytes : Bytes) (rest : List Piece) :
    pieceBytes flaw (bytes.map .byte ++ rest) = (pieceBytes flaw rest).map (bytes ++ ·) := by
  induction bytes with
  | nil =>
    rw [List.map_nil, List.nil_append]
    cases pieceBytes flaw rest <;> rfl
  | cons b bytes ih =>
    rw [List.map_cons, List.cons_append, pieceBytes_byte, ih]
    cases pieceBytes flaw rest <;> rfl

/-! ### What a text between quotes spells -/

/-- A text between quotes spells some characters: its pieces stand for the bytes of these. -/
def Spells (text cs : List Char) : Prop :=
  ∃ pieces, (∀ rest, scanPieces (encodeChars text ++ rest) =
      (pieces ++ (scanPieces rest).1, (scanPieces rest).2)) ∧
    ∀ flaw more, pieceBytes flaw (pieces ++ more) = (pieceBytes flaw more).map (encodeChars cs ++ ·)

theorem Spells.nil : Spells [] [] := by
  refine ⟨[], fun rest => rfl, fun flaw more => ?_⟩
  rw [List.nil_append]
  cases pieceBytes flaw more <;> rfl

theorem Spells.append {text text' cs cs' : List Char} (h : Spells text cs) (h' : Spells text' cs') :
    Spells (text ++ text') (cs ++ cs') := by
  obtain ⟨pieces, hscan, hbytes⟩ := h
  obtain ⟨pieces', hscan', hbytes'⟩ := h'
  refine ⟨pieces ++ pieces', fun rest => ?_, fun flaw more => ?_⟩
  · rw [encodeChars_append, List.append_assoc, hscan, hscan', List.append_assoc]
  · rw [List.append_assoc, hbytes, hbytes', encodeChars_append]
    cases pieceBytes flaw more with
    | error flaw' => rfl
    | ok bytes => simp

/-- A character that stands for itself. -/
theorem spells_plain {c : Char} (h : 0x20 ≤ c.toNat) (hquote : c ≠ '"') (hslash : c ≠ '\\') :
    Spells [c] [c] := by
  have hplain : ∀ b ∈ encodeChar c, IsPlain b := by
    intro b hb
    rcases Nat.lt_or_ge c.toNat 0x80 with hascii | hbeyond
    · rw [encodeChar_of_ascii hascii, List.mem_singleton] at hb
      have hb' : b.toNat = c.toNat := by rw [hb, byte_toNat (by omega)]
      have hne : ∀ d : Char, c ≠ d → b.toNat ≠ d.toNat := fun d hcd hbd =>
        hcd (Char.toNat_inj.1 (hb'.symm.trans hbd))
      exact ⟨by omega, fun hb => hne '"' hquote (by rw [hb]; rfl),
        fun hb => hne '\\' hslash (by rw [hb]; rfl)⟩
    · have hb' := le_of_mem_encodeChar hbeyond hb
      refine ⟨by omega, ?_, ?_⟩ <;> rintro rfl <;> exact absurd hb' (by decide)
  have hsingle : encodeChars [c] = encodeChar c := List.append_nil _
  refine ⟨(encodeChar c).map .byte, fun rest => ?_, fun flaw more => ?_⟩
  · rw [hsingle, scanPieces_append hplain]
  · rw [hsingle, pieceBytes_map_byte]

/-- A character that is a single byte, written with a short escape. -/
theorem spells_shortEscape {c e : Char} (he : e.toNat < 0x80) (hc : c.toNat < 0x80)
    (h : shortEscape (UInt8.ofNat e.toNat) = some (UInt8.ofNat c.toNat)) :
    Spells ['\\', e] [c] := by
  have htext : encodeChars ['\\', e] = [0x5C, UInt8.ofNat e.toNat] := by
    rw [encodeChars_cons, encodeChars_cons, encodeChar_of_ascii he]
    rfl
  have hchar : encodeChars [c] = [UInt8.ofNat c.toNat] := by
    rw [encodeChars_cons, encodeChar_of_ascii hc]
    rfl
  refine ⟨[.byte (UInt8.ofNat c.toNat)], fun rest => ?_, fun flaw more => ?_⟩
  · rw [htext]
    exact scanPieces_shortEscape h rest
  · rw [hchar]
    exact pieceBytes_byte flaw _ more

/-- The number that two hexadecimal digits in lower case denote, behind two zeros. -/
theorem hexUnit_lowerHex : ∀ n < 0x20, hexUnit 0x30 0x30 (UInt8.ofNat (lowerHex (n / 16)).toNat)
    (UInt8.ofNat (lowerHex (n % 16)).toNat) = some n ∧ (lowerHex (n / 16)).toNat < 0x80 ∧
      (lowerHex (n % 16)).toNat < 0x80 := by
  decide

/-- A control character, written with its number. -/
theorem spells_unit {c : Char} (h : c.toNat < 0x20) :
    Spells ['\\', 'u', '0', '0', lowerHex (c.toNat / 16), lowerHex (c.toNat % 16)] [c] := by
  obtain ⟨hunit, hhigh, hlow⟩ := hexUnit_lowerHex c.toNat h
  have hchar : encodeChars [c] = encodeChar (Char.ofNat c.toNat) := by
    rw [Char.ofNat_toNat]
    exact List.append_nil _
  refine ⟨[.unit c.toNat], fun rest => ?_, fun flaw more => ?_⟩
  · simp only [encodeChars_cons, encodeChar_of_ascii hhigh, encodeChar_of_ascii hlow]
    exact scanPieces_unit hunit rest
  · rw [hchar]
    exact pieceBytes_unit flaw (by omega) more

/-- A character as it is printed. -/
theorem spells_escapeChar (c : Char) : Spells (escapeChar c) [c] := by
  have hshort : ∀ {d e : Char}, c = d → e.toNat < 0x80 ∧ d.toNat < 0x80 ∧
      shortEscape (UInt8.ofNat e.toNat) = some (UInt8.ofNat d.toNat) → Spells ['\\', e] [c] := by
    rintro d e rfl ⟨he, hc, h⟩
    exact spells_shortEscape he hc h
  rw [escapeChar]
  split_ifs with hquote hslash hback hfeed hline hreturn htab hcontrol
  · exact hshort hquote (by decide)
  · exact hshort hslash (by decide)
  · exact hshort hback (by decide)
  · exact hshort hfeed (by decide)
  · exact hshort hline (by decide)
  · exact hshort hreturn (by decide)
  · exact hshort htab (by decide)
  · exact spells_unit hcontrol
  · exact spells_plain (by omega) hquote hslash

theorem spells_escaped (cs : List Char) : Spells (cs.flatMap escapeChar) cs := by
  induction cs with
  | nil => exact .nil
  | cons c cs ih => exact (spells_escapeChar c).append ih

/-- **A string reads back**, whatever follows its closing quote. -/
theorem scanString_escaped (s : String) (rest : Bytes) :
    scanString (encodeChars (s.toList.flatMap escapeChar) ++ 0x22 :: rest) = .ok (some s, rest) := by
  obtain ⟨pieces, hscan, hbytes⟩ := spells_escaped s.toList
  have hclose : scanPieces (0x22 :: rest) = ([], .ok rest) := by rw [scanPieces]
  have hcontent : pieceBytes .malformed pieces = .ok (encodeChars s.toList) := by
    have hnil := hbytes .malformed []
    rw [List.append_nil, pieceBytes, map_ok, List.append_nil] at hnil
    exact hnil
  rw [scanString, hscan, hclose, List.append_nil]
  dsimp only
  rw [hcontent]
  exact congrArg (fun text => Except.ok (text, rest)) (decode_eq_some_iff.2 rfl)

end BrokerAdmin.Json.Document
