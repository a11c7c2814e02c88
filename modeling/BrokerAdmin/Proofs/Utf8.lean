import BrokerAdmin.Utf8

/-!
# UTF-8 reads back what it writes

The scan of bytes is compared with the encoding of characters, one character at a time. In both
directions the four lengths of a character are cases of their own: the lead byte fixes the length,
and the bounds of the second byte are what rules out surrogates and forms that are too long.

## Main results

* `Utf8.scan_encodeChar`: a character is cut off where it ends.
* `Utf8.decode_eq_some_iff`: bytes denote a text exactly when they are its encoding.
* `Utf8.asciiChars_sublist_decodeLossy`: the lenient reading keeps what is ASCII.
-/

namespace BrokerAdmin.Utf8

/-! ### Bytes and characters as numbers -/

theorem toNat_valid (c : Char) : c.toNat < 0xD800 ∨ 0xDFFF < c.toNat ∧ c.toNat < 0x110000 :=
  c.valid

theorem toNat_ofNat {n : Nat} (h : n < 0xD800 ∨ 0xDFFF < n ∧ n < 0x110000) :
    (Char.ofNat n).toNat = n := by
  have hv : n.isValidChar := h
  rw [Char.ofNat, dif_pos hv]
  rfl

theorem byte_toNat {n : Nat} (h : n < 256) : (UInt8.ofNat n).toNat = n := by
  rw [UInt8.toNat_ofNat']
  omega

theorem byte_eq {b : UInt8} {n : Nat} (h : b.toNat = n) : UInt8.ofNat n = b := by
  rw [← h, UInt8.ofNat_toNat]

theorem within_iff {low high b : UInt8} :
    within low high b = true ↔ low.toNat ≤ b.toNat ∧ b.toNat ≤ high.toNat := by
  simp [within, UInt8.le_iff_toNat_le]

theorem isTail_iff {b : UInt8} : isTail b = true ↔ 0x80 ≤ b.toNat ∧ b.toNat ≤ 0xBF := within_iff

theorem second3_iff {lead b : UInt8} : second3 lead b = true ↔
    0x80 ≤ b.toNat ∧ b.toNat ≤ 0xBF ∧ (lead.toNat = 0xE0 → 0xA0 ≤ b.toNat) ∧
      (lead.toNat = 0xED → b.toNat ≤ 0x9F) := by
  have h0 : lead = 0xE0 ↔ lead.toNat = 0xE0 := by rw [← UInt8.toNat_inj]; rfl
  have h1 : lead = 0xED ↔ lead.toNat = 0xED := by rw [← UInt8.toNat_inj]; rfl
  unfold second3
  simp only [h0, h1]
  split
  · rw [within_iff]; simp; omega
  · split
    · rw [within_iff]; simp; omega
    · rw [isTail_iff]; omega

theorem second4_iff {lead b : UInt8} : second4 lead b = true ↔
    0x80 ≤ b.toNat ∧ b.toNat ≤ 0xBF ∧ (lead.toNat = 0xF0 → 0x90 ≤ b.toNat) ∧
      (lead.toNat = 0xF4 → b.toNat ≤ 0x8F) := by
  have h0 : lead = 0xF0 ↔ lead.toNat = 0xF0 := by rw [← UInt8.toNat_inj]; rfl
  have h1 : lead = 0xF4 ↔ lead.toNat = 0xF4 := by rw [← UInt8.toNat_inj]; rfl
  unfold second4
  simp only [h0, h1]
  split
  · rw [within_iff]; simp; omega
  · split
    · rw [within_iff]; simp; omega
    · rw [isTail_iff]; omega

/-! ### The bytes of characters -/

theorem encodeChars_cons (c : Char) (cs : List Char) :
    encodeChars (c :: cs) = encodeChar c ++ encodeChars cs := rfl

theorem encodeChars_append (cs ds : List Char) :
    encodeChars (cs ++ ds) = encodeChars cs ++ encodeChars ds := List.flatMap_append

theorem encodeChar_of_ascii {c : Char} (h : c.toNat < 0x80) :
    encodeChar c = [UInt8.ofNat c.toNat] := if_pos h

/-- A character beyond ASCII has no byte of ASCII. -/
theorem le_of_mem_encodeChar {c : Char} (h : 0x80 ≤ c.toNat) {b : UInt8} (hb : b ∈ encodeChar c) :
    0x80 ≤ b.toNat := by
  have hvalid := toNat_valid c
  rw [encodeChar, if_neg (by omega)] at hb
  split at hb
  · simp only [List.mem_cons, List.not_mem_nil, or_false] at hb
    rcases hb with rfl | rfl <;> rw [byte_toNat (by omega)] <;> omega
  · split at hb
    · simp only [List.mem_cons, List.not_mem_nil, or_false] at hb
      rcases hb with rfl | rfl | rfl <;> rw [byte_toNat (by omega)] <;> omega
    · simp only [List.mem_cons, List.not_mem_nil, or_false] at hb
      rcases hb with rfl | rfl | rfl | rfl <;> rw [byte_toNat (by omega)] <;> omega

/-! ### Scanning what was encoded -/

theorem scan_one {n : Nat} (h : n < 0x80) (rest : Bytes) :
    scan (UInt8.ofNat n :: rest) = some (Char.ofNat n) :: scan rest := by
  have ha : UInt8.ofNat n < 0x80 := by
    rw [UInt8.lt_iff_toNat_lt, byte_toNat (by omega)]; exact h
  rw [scan.eq_def]
  simp only [ha, if_true, byte_toNat (show n < 256 by omega)]

theorem scan_two {n : Nat} (h : 0x80 ≤ n) (h' : n < 0x800) (rest : Bytes) :
    scan (UInt8.ofNat (0xC0 + n / 64) :: UInt8.ofNat (0x80 + n % 64) :: rest) =
      some (Char.ofNat n) :: scan rest := by
  have ha : (UInt8.ofNat (0xC0 + n / 64)).toNat = 0xC0 + n / 64 := byte_toNat (by omega)
  have hb : (UInt8.ofNat (0x80 + n % 64)).toNat = 0x80 + n % 64 := byte_toNat (by omega)
  have h0 : ¬ UInt8.ofNat (0xC0 + n / 64) < 0x80 := by
    rw [UInt8.lt_iff_toNat_lt, ha]; simp; omega
  have h1 : within 0xC2 0xDF (UInt8.ofNat (0xC0 + n / 64)) = true := by
    rw [within_iff, ha]; simp; omega
  have h2 : isTail (UInt8.ofNat (0x80 + n % 64)) = true := by rw [isTail_iff, hb]; omega
  rw [scan.eq_def]
  simp only [h0, h1, h2, if_true, if_false, ha, hb, tailBits]
  rw [show (0xC0 + n / 64) % 32 * 64 + (0x80 + n % 64) % 64 = n by omega]

theorem scan_three {n : Nat} (h : 0x800 ≤ n) (h' : n < 0x10000) (hs : n < 0xD800 ∨ 0xDFFF < n)
    (rest : Bytes) :
    scan (UInt8.ofNat (0xE0 + n / 4096) :: UInt8.ofNat (0x80 + n / 64 % 64) ::
      UInt8.ofNat (0x80 + n % 64) :: rest) = some (Char.ofNat n) :: scan rest := by
  have ha : (UInt8.ofNat (0xE0 + n / 4096)).toNat = 0xE0 + n / 4096 := byte_toNat (by omega)
  have hb : (UInt8.ofNat (0x80 + n / 64 % 64)).toNat = 0x80 + n / 64 % 64 := byte_toNat (by omega)
  have hc : (UInt8.ofNat (0x80 + n % 64)).toNat = 0x80 + n % 64 := byte_toNat (by omega)
  have h0 : ¬ UInt8.ofNat (0xE0 + n / 4096) < 0x80 := by
    rw [UInt8.lt_iff_toNat_lt, ha]; simp; omega
  have h1 : within 0xC2 0xDF (UInt8.ofNat (0xE0 + n / 4096)) = false := by
    rw [Bool.eq_false_iff, Ne, within_iff, ha]; simp; omega
  have h2 : within 0xE0 0xEF (UInt8.ofNat (0xE0 + n / 4096)) = true := by
    rw [within_iff, ha]; simp; omega
  have h3 : second3 (UInt8.ofNat (0xE0 + n / 4096)) (UInt8.ofNat (0x80 + n / 64 % 64)) = true := by
    rw [second3_iff, ha, hb]; omega
  have h4 : isTail (UInt8.ofNat (0x80 + n % 64)) = true := by rw [isTail_iff, hc]; omega
  rw [scan.eq_def]
  simp only [h0, h1, h2, h3, h4, if_true, if_false, ha, hb, hc, tailBits, Bool.false_eq_true]
  rw [show (0xE0 + n / 4096) % 16 * 4096 + (0x80 + n / 64 % 64) % 64 * 64 + (0x80 + n % 64) % 64 = n
    by omega]

theorem scan_four {n : Nat} (h : 0x10000 ≤ n) (h' : n < 0x110000) (rest : Bytes) :
    scan (UInt8.ofNat (0xF0 + n / 262144) :: UInt8.ofNat (0x80 + n / 4096 % 64) ::
      UInt8.ofNat (0x80 + n / 64 % 64) :: UInt8.ofNat (0x80 + n % 64) :: rest) =
      some (Char.ofNat n) :: scan rest := by
  have ha : (UInt8.ofNat (0xF0 + n / 262144)).toNat = 0xF0 + n / 262144 := byte_toNat (by omega)
  have hb : (UInt8.ofNat (0x80 + n / 4096 % 64)).toNat = 0x80 + n / 4096 % 64 :=
    byte_toNat (by omega)
  have hc : (UInt8.ofNat (0x80 + n / 64 % 64)).toNat = 0x80 + n / 64 % 64 := byte_toNat (by omega)
  have hd : (UInt8.ofNat (0x80 + n % 64)).toNat = 0x80 + n % 64 := byte_toNat (by omega)
  have h0 : ¬ UInt8.ofNat (0xF0 + n / 262144) < 0x80 := by
    rw [UInt8.lt_iff_toNat_lt, ha]; simp; omega
  have h1 : within 0xC2 0xDF (UInt8.ofNat (0xF0 + n / 262144)) = false := by
    rw [Bool.eq_false_iff, Ne, within_iff, ha]; simp; omega
  have h2 : within 0xE0 0xEF (UInt8.ofNat (0xF0 + n / 262144)) = false := by
    rw [Bool.eq_false_iff, Ne, within_iff, ha]; simp; omega
  have h3 : within 0xF0 0xF4 (UInt8.ofNat (0xF0 + n / 262144)) = true := by
    rw [within_iff, ha]; simp; omega
  have h4 : second4 (UInt8.ofNat (0xF0 + n / 262144)) (UInt8.ofNat (0x80 + n / 4096 % 64)) =
      true := by
    rw [second4_iff, ha, hb]; omega
  have h5 : isTail (UInt8.ofNat (0x80 + n / 64 % 64)) = true := by rw [isTail_iff, hc]; omega
  have h6 : isTail (UInt8.ofNat (0x80 + n % 64)) = true := by rw [isTail_iff, hd]; omega
  rw [scan.eq_def]
  simp only [h0, h1, h2, h3, h4, h5, h6, if_true, if_false, ha, hb, hc, hd, tailBits,
    Bool.false_eq_true]
  rw [show (0xF0 + n / 262144) % 8 * 262144 + (0x80 + n / 4096 % 64) % 64 * 4096 +
    (0x80 + n / 64 % 64) % 64 * 64 + (0x80 + n % 64) % 64 = n by omega]

/-- **A character is cut off where it ends**, whatever follows it. -/
theorem scan_encodeChar (c : Char) (rest : Bytes) :
    scan (encodeChar c ++ rest) = some c :: scan rest := by
  have hv := toNat_valid c
  have hc : some (Char.ofNat c.toNat) :: scan rest = some c :: scan rest := by
    rw [Char.ofNat_toNat]
  rw [← hc]
  simp only [encodeChar]
  split
  · next h => exact scan_one h rest
  · split
    · next h h' => exact scan_two (by omega) h' rest
    · split
      · next h h' => exact scan_three (by omega) h' (by omega) rest
      · next h => exact scan_four (n := c.toNat) (by omega) (by omega) rest

theorem scan_encodeChars (cs : List Char) : scan (encodeChars cs) = cs.map some := by
  induction cs with
  | nil => rfl
  | cons c cs ih =>
    rw [encodeChars_cons, scan_encodeChar, ih]
    rfl

/-- Where nothing is ill-formed, the lenient reading replaces nothing. -/
theorem decodeLossy_encode (s : String) : decodeLossy (encode s) = s := by
  have hmap : (s.toList.map some).map (·.getD '\uFFFD') = s.toList := by
    rw [List.map_map]
    exact List.map_id s.toList
  rw [decodeLossy, encode, scan_encodeChars, hmap, String.ofList_toList]

theorem allWellFormed_eq_some_iff {pieces : List (Option Char)} {cs : List Char} :
    allWellFormed pieces = some cs ↔ pieces = cs.map some := by
  induction pieces generalizing cs with
  | nil => cases cs <;> simp [allWellFormed]
  | cons piece pieces ih =>
    cases piece with
    | none => cases cs <;> simp [allWellFormed]
    | some c =>
      cases cs with
      | nil => simp [allWellFormed]
      | cons d cs =>
        rw [allWellFormed, Option.map_eq_some_iff]
        constructor
        · rintro ⟨ds, hds, heq⟩
          obtain ⟨rfl, rfl⟩ := List.cons.inj heq
          rw [ih.1 hds]
          rfl
        · intro h
          obtain ⟨hc, hcs⟩ := List.cons.inj h
          exact ⟨cs, ih.2 hcs, by rw [Option.some.inj hc]⟩

/-! ### One reading for each text -/

theorem encodeChar_eq_one {c : Char} {a : UInt8} (h : c.toNat < 0x80) (ha : c.toNat = a.toNat) :
    encodeChar c = [a] := by
  simp only [encodeChar]
  rw [if_pos h, byte_eq ha.symm]

theorem encodeChar_eq_two {c : Char} {a b : UInt8} (h : 0x80 ≤ c.toNat) (h' : c.toNat < 0x800)
    (ha : a.toNat = 0xC0 + c.toNat / 64) (hb : b.toNat = 0x80 + c.toNat % 64) :
    encodeChar c = [a, b] := by
  simp only [encodeChar]
  rw [if_neg (by omega), if_pos h', byte_eq ha, byte_eq hb]

theorem encodeChar_eq_three {c : Char} {a b d : UInt8} (h : 0x800 ≤ c.toNat)
    (h' : c.toNat < 0x10000) (ha : a.toNat = 0xE0 + c.toNat / 4096)
    (hb : b.toNat = 0x80 + c.toNat / 64 % 64) (hd : d.toNat = 0x80 + c.toNat % 64) :
    encodeChar c = [a, b, d] := by
  simp only [encodeChar]
  rw [if_neg (by omega), if_neg (by omega), if_pos h', byte_eq ha, byte_eq hb, byte_eq hd]

theorem encodeChar_eq_four {c : Char} {a b d e : UInt8} (h : 0x10000 ≤ c.toNat)
    (ha : a.toNat = 0xF0 + c.toNat / 262144) (hb : b.toNat = 0x80 + c.toNat / 4096 % 64)
    (hd : d.toNat = 0x80 + c.toNat / 64 % 64) (he : e.toNat = 0x80 + c.toNat % 64) :
    encodeChar c = [a, b, d, e] := by
  simp only [encodeChar]
  rw [if_neg (by omega), if_neg (by omega), if_neg (by omega), byte_eq ha, byte_eq hb, byte_eq hd,
    byte_eq he]

theorem encodeChar_two {a b : UInt8} (ha : within 0xC2 0xDF a = true) (hb : isTail b = true) :
    encodeChar (Char.ofNat (a.toNat % 32 * 64 + tailBits b)) = [a, b] := by
  rw [within_iff] at ha
  rw [isTail_iff] at hb
  simp only [UInt8.reduceToNat, tailBits] at ha ⊢
  have hn := toNat_ofNat (n := a.toNat % 32 * 64 + b.toNat % 64) (by omega)
  exact encodeChar_eq_two (by omega) (by omega) (by omega) (by omega)

theorem encodeChar_three {a b d : UInt8} (ha : within 0xE0 0xEF a = true)
    (hb : second3 a b = true) (hd : isTail d = true) :
    encodeChar (Char.ofNat (a.toNat % 16 * 4096 + tailBits b * 64 + tailBits d)) = [a, b, d] := by
  rw [within_iff] at ha
  rw [second3_iff] at hb
  rw [isTail_iff] at hd
  simp only [UInt8.reduceToNat, tailBits] at ha ⊢
  have hn := toNat_ofNat (n := a.toNat % 16 * 4096 + b.toNat % 64 * 64 + d.toNat % 64) (by omega)
  exact encodeChar_eq_three (by omega) (by omega) (by omega) (by omega) (by omega)

theorem encodeChar_four {a b d e : UInt8} (ha : within 0xF0 0xF4 a = true)
    (hb : second4 a b = true) (hd : isTail d = true) (he : isTail e = true) :
    encodeChar (Char.ofNat (a.toNat % 8 * 262144 + tailBits b * 4096 + tailBits d * 64 +
      tailBits e)) = [a, b, d, e] := by
  rw [within_iff] at ha
  rw [second4_iff] at hb
  rw [isTail_iff] at hd he
  simp only [UInt8.reduceToNat, tailBits] at ha ⊢
  have hn := toNat_ofNat (n := a.toNat % 8 * 262144 + b.toNat % 64 * 4096 + d.toNat % 64 * 64 +
    e.toNat % 64) (by omega)
  exact encodeChar_eq_four (by omega) (by omega) (by omega) (by omega) (by omega)

theorem not_none_cons_eq_map {pieces : List (Option Char)} {cs : List Char} :
    none :: pieces ≠ cs.map some := by
  cases cs <;> simp

theorem append_eq_encodeChars {c : Char} {front rest : Bytes} {cs : List Char}
    (hc : encodeChar c = front) (ih : ∀ {ds}, scan rest = ds.map some → rest = encodeChars ds)
    (h : some c :: scan rest = cs.map some) : front ++ rest = encodeChars cs := by
  cases cs with
  | nil => simp at h
  | cons d cs =>
    obtain ⟨hd, hcs⟩ := List.cons.inj h
    rw [← Option.some.inj hd, encodeChars_cons, hc, ← ih hcs]

theorem eq_encodeChars_of_scan {bytes : Bytes} {cs : List Char} (h : scan bytes = cs.map some) :
    bytes = encodeChars cs := by
  -- A scan without an ill-formed piece takes one of the four branches that make a character.
  fun_induction scan bytes generalizing cs
  case case1 =>
    cases cs with
    | nil => rfl
    | cons c cs => simp at h
  case case2 a rest ha ih =>
    have hlt : a.toNat < 0x80 := by simpa [UInt8.lt_iff_toNat_lt] using ha
    have hn := toNat_ofNat (n := a.toNat) (by omega)
    exact append_eq_encodeChars (encodeChar_eq_one (by omega) hn) ih h
  case case4 a _ ha b rest hb ih => exact append_eq_encodeChars (encodeChar_two ha hb) ih h
  case case9 a _ _ ha b c rest hb hc ih =>
    exact append_eq_encodeChars (encodeChar_three ha hb hc) ih h
  case case18 a _ _ _ ha b c d rest hb hc hd ih =>
    exact append_eq_encodeChars (encodeChar_four ha hb hc hd) ih h
  all_goals exact absurd h not_none_cons_eq_map

/-- **Bytes denote a text exactly when they are its encoding**: each text has one form in bytes, and
nothing else is read as a text. -/
theorem decode_eq_some_iff {bytes : Bytes} {s : String} :
    decode bytes = some s ↔ bytes = encode s := by
  rw [decode, decodeChars, Option.map_eq_some_iff]
  constructor
  · rintro ⟨cs, hcs, rfl⟩
    rw [encode, String.toList_ofList]
    exact eq_encodeChars_of_scan (allWellFormed_eq_some_iff.1 hcs)
  · rintro rfl
    exact ⟨s.toList, allWellFormed_eq_some_iff.2 (scan_encodeChars _), String.ofList_toList⟩

theorem encode_injective {s t : String} (h : encode s = encode t) : s = t :=
  Option.some.inj ((decode_eq_some_iff.2 h).symm.trans (decode_eq_some_iff.2 rfl)).symm

/-! ### ASCII among other bytes -/

/-- The characters that the bytes of ASCII among some bytes stand for. -/
def asciiChars (bytes : Bytes) : List Char :=
  (bytes.filter (· < 0x80)).map fun b => Char.ofNat b.toNat

theorem asciiChars_cons_of_lt {b : UInt8} (h : b < 0x80) (rest : Bytes) :
    asciiChars (b :: rest) = Char.ofNat b.toNat :: asciiChars rest := by
  simp [asciiChars, h]

theorem asciiChars_cons_of_not_lt {b : UInt8} (h : ¬ b < 0x80) (rest : Bytes) :
    asciiChars (b :: rest) = asciiChars rest := by
  simp [asciiChars, h]

theorem not_lt_of_isTail {b : UInt8} (h : isTail b = true) : ¬ b < 0x80 := by
  have hlow := (isTail_iff.1 h).1
  exact fun hb => absurd (UInt8.lt_iff_toNat_lt.1 hb) (Nat.not_lt.2 hlow)

theorem isTail_of_second3 {lead b : UInt8} (h : second3 lead b = true) : isTail b = true := by
  have hb := second3_iff.1 h
  rw [isTail_iff]
  omega

theorem isTail_of_second4 {lead b : UInt8} (h : second4 lead b = true) : isTail b = true := by
  have hb := second4_iff.1 h
  rw [isTail_iff]
  omega

/-- **A byte of ASCII is read as its character** wherever it stands. -/
theorem asciiChars_sublist_scan (bytes : Bytes) :
    ((asciiChars bytes).map some).Sublist (scan bytes) := by
  fun_induction scan bytes with
  | case1 => exact .slnil
  | case2 a rest h ih =>
    rw [asciiChars_cons_of_lt h, List.map_cons]
    exact ih.cons_cons _
  | _ =>
    -- What is taken with a lead byte beyond ASCII is beyond ASCII as well.
    grind [asciiChars_cons_of_not_lt, not_lt_of_isTail, isTail_of_second3, isTail_of_second4,
      asciiChars]

/-- The lenient reading shows the characters of all bytes of ASCII. -/
theorem asciiChars_sublist_decodeLossy (bytes : Bytes) :
    (asciiChars bytes).Sublist (decodeLossy bytes).toList := by
  have hmap : ((asciiChars bytes).map some).map (·.getD '\uFFFD') = asciiChars bytes := by
    rw [List.map_map]
    exact List.map_id _
  have hsublist := (asciiChars_sublist_scan bytes).map (·.getD '\uFFFD')
  rwa [hmap, ← String.toList_ofList (l := (scan bytes).map _), ← decodeLossy] at hsublist

end BrokerAdmin.Utf8
