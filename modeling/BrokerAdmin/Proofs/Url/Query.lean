import BrokerAdmin.Proofs.Text
import BrokerAdmin.Proofs.Url.Percent
import BrokerAdmin.Url.Basic

/-!
# Names and values read back

A query holds names and values with two separators, one between pairs and one inside a pair. Neither
is ever written for a character of a name or a value, and a plus sign neither, so all three keep
their meaning when a query is read.

Pairs are only ever put behind the query that is there. Whatever that query is, what it means does
not change, since a query is read piece by piece.

## Main definitions

* `Url.pairs`: the names and values of an address.

## Main results

* `Percent.formDecode_formEncode`: a name or value reads back.
* `Url.pairs_appendQuery`: the names and values after some have been added.
-/

namespace BrokerAdmin

namespace Percent

/-! ### One byte -/

/-- What stands for a byte is the byte itself, a plus sign, or a percent sign and digits. -/
theorem formEncodeByte_cases (b : UInt8) :
    (∃ c : Char, formEncodeByte b = [c] ∧ c.toNat = b.toNat ∧ c.toNat < 0x80 ∧
      c ∉ ['%', '+', '&', '=']) ∨ b = 0x20 ∧ formEncodeByte b = ['+'] ∨
      formEncodeByte b = encodeByte b := by
  rw [formEncodeByte]
  split
  · next hform =>
    have hrange : b.toNat < 0x80 := by
      simp only [isFormByte, Bool.or_eq_true, Bool.and_eq_true, decide_eq_true_eq,
        UInt8.le_iff_toNat_le, ← UInt8.toNat_inj, UInt8.reduceToNat] at hform
      omega
    have hc : (Char.ofNat b.toNat).toNat = b.toNat := Utf8.toNat_ofNat (.inl (by omega))
    refine .inl ⟨_, rfl, hc, by omega, ?_⟩
    have hne : ∀ d : Char, isFormByte (UInt8.ofNat d.toNat) = false → Char.ofNat b.toNat ≠ d := by
      rintro d hd rfl
      rw [hc, UInt8.ofNat_toNat, hform] at hd
      cases hd
    simp only [List.mem_cons, List.not_mem_nil, or_false, not_or]
    exact ⟨hne _ (by decide), hne _ (by decide), hne _ (by decide), hne _ (by decide)⟩
  · split
    · next hspace => exact .inr (.inl ⟨hspace, rfl⟩)
    · exact .inr (.inr rfl)

theorem mem_formEncodeByte {b : UInt8} {c : Char} (h : c ∈ formEncodeByte b) :
    c ≠ '&' ∧ c ≠ '=' := by
  rcases formEncodeByte_cases b with ⟨d, hd, -, -, hne⟩ | ⟨-, hplus⟩ | hbyte
  · rw [hd, List.mem_singleton] at h
    subst h
    simp only [List.mem_cons, not_or] at hne
    exact ⟨hne.2.2.1, hne.2.2.2.1⟩
  · rw [hplus, List.mem_singleton] at h
    subst h
    decide
  · rw [hbyte] at h
    rcases mem_encodeByte h with rfl | hdigit
    · decide
    · constructor <;> rintro rfl <;> revert hdigit <;> decide

/-- A character with the plus sign read as a space. -/
def ofPlus (c : Char) : Char := if c = '+' then ' ' else c

theorem decode_formEncodeByte (b : UInt8) (rest : List Char) :
    decode ((formEncodeByte b).map ofPlus ++ rest) = b :: decode rest := by
  rcases formEncodeByte_cases b with ⟨c, hc, heq, hlt, hne⟩ | ⟨rfl, hplus⟩ | hbyte
  · simp only [List.mem_cons, not_or] at hne
    rw [hc, List.map_singleton, ofPlus, if_neg hne.2.1]
    change decode (c :: rest) = _
    rw [decode_cons_of_ne hne.1, Utf8.encodeChar_eq_one hlt heq]
    rfl
  · rw [hplus]
    exact decode_cons_of_ne (by decide) rest
  · have hkept : (encodeByte b).map ofPlus = encodeByte b := by
      refine (List.map_congr_left fun c hc => ?_).trans (List.map_id _)
      have hne : c ≠ '+' := by
        rcases mem_encodeByte hc with rfl | hdigit
        · decide
        · rintro rfl
          revert hdigit
          decide
      exact if_neg hne
    rw [hbyte, hkept, decode_encodeByte]

/-! ### Names and values -/

theorem mem_formEncode {s : String} {c : Char} (h : c ∈ formEncode s) : c ≠ '&' ∧ c ≠ '=' := by
  obtain ⟨b, -, hb⟩ := List.mem_flatMap.1 h
  exact mem_formEncodeByte hb

/-- **A name or value reads back.** -/
theorem formDecode_formEncode (s : String) : formDecode (formEncode s) = s := by
  have hbytes : ∀ bytes : Bytes, decode ((bytes.flatMap formEncodeByte).map ofPlus) = bytes := by
    intro bytes
    induction bytes with
    | nil => rfl
    | cons b bytes ih => rw [List.flatMap_cons, List.map_append, decode_formEncodeByte, ih]
  change Utf8.decodeLossy (decode ((formEncode s).map ofPlus)) = s
  rw [formEncode, hbytes, Utf8.decodeLossy_encode]

end Percent

namespace Url

/-- The names and values of an address. Without a query there are none. -/
def pairs (url : Url) : List (String × String) := queryPairs (url.query.getD "")

/-! ### Pairs -/

/-- The pair that a piece of a query denotes. -/
def ofPiece (cs : List Char) : String × String :=
  (Percent.formDecode (cs.takeWhile (· != '=')),
    Percent.formDecode ((cs.dropWhile (· != '=')).drop 1))

/-- The names and values that characters of a query denote. -/
def charPairs (cs : List Char) : List (String × String) :=
  ((splitFields '&' cs).filter (!·.isEmpty)).map ofPiece

theorem queryPairs_eq (query : String) : queryPairs query = charPairs query.toList := rfl

theorem ofPiece_pairText (pair : String × String) : ofPiece (pairText pair) = pair := by
  have hname : ∀ c ∈ Percent.formEncode pair.1, (c != '=') = true :=
    fun c hc => bne_iff_ne.2 (Percent.mem_formEncode hc).2
  have hstop : ∀ rest : List Char, ('=' :: rest).takeWhile (· != '=') = [] ∧
      ('=' :: rest).dropWhile (· != '=') = '=' :: rest := fun rest => ⟨rfl, rfl⟩
  rw [ofPiece, pairText, List.takeWhile_append_of_pos hname, List.dropWhile_append_of_pos hname,
    (hstop _).1, (hstop _).2, List.append_nil, List.drop_succ_cons, List.drop_zero,
    Percent.formDecode_formEncode, Percent.formDecode_formEncode]

/-- A pair is written as one piece. -/
theorem splitFields_pairText (pair : String × String) :
    splitFields '&' (pairText pair) = [pairText pair] := by
  refine splitFields_of_notMem fun h => ?_
  rw [pairText, List.mem_append, List.mem_cons] at h
  rcases h with h | h | h
  · exact (Percent.mem_formEncode h).1 rfl
  · cases h
  · exact (Percent.mem_formEncode h).1 rfl

/-- **One more pair is read behind the others**, whatever these are. -/
theorem charPairs_appendPair (query : List Char) (pair : String × String) :
    charPairs (appendPair query pair) = charPairs query ++ [pair] := by
  have hkept : [pairText pair].filter (!·.isEmpty) = [pairText pair] :=
    List.filter_cons_of_pos (by simp [pairText])
  rw [appendPair]
  split
  · next hempty =>
    obtain rfl := List.isEmpty_iff.1 hempty
    rw [charPairs, List.nil_append, splitFields_pairText, hkept, List.map_singleton,
      ofPiece_pairText]
    rfl
  · rw [List.append_assoc, List.singleton_append, charPairs, splitFields_append,
      splitFields_pairText, List.filter_append, hkept, List.map_append, List.map_singleton,
      ofPiece_pairText]
    rfl

theorem charPairs_foldl_appendPair (query : List Char) (added : List (String × String)) :
    charPairs (added.foldl appendPair query) = charPairs query ++ added := by
  induction added generalizing query with
  | nil => simp
  | cons pair added ih =>
    rw [List.foldl_cons, ih, charPairs_appendPair, List.append_assoc, List.singleton_append]

/-- **The names and values after some have been added** are those that were there and the added
ones, in order. -/
theorem pairs_appendQuery (url : Url) (added : List (String × String)) :
    (url.appendQuery added).pairs = url.pairs ++ added := by
  rw [appendQuery]
  split
  · next hempty =>
    rw [List.isEmpty_iff.1 hempty, List.append_nil]
  · rw [pairs, pairs, queryPairs_eq, queryPairs_eq, Option.getD_some, String.toList_ofList,
      charPairs_foldl_appendPair]

end Url

end BrokerAdmin
