import BrokerAdmin.Proofs.Json.Layout
import BrokerAdmin.Proofs.Refusal

/-!
# Reasons and what stands for them

What a server says is passed on as it stands, if the body is read. A body that is not read stands for
itself: its text is shown, without the blanks around it, and where there is no text the phrase of the
status. Bytes that are no UTF-8 are shown as replacement characters.

## The distinction that decides it

Being a JSON object with a reason and being read are not the same. An object with a reason is not read
if one of its other keys is no text. And two kinds of bodies that are no such object are read all the
same:

* an array that holds a text and nothing else, since a record may be given by its items;
* bytes that are no UTF-8 but would be an object with a reason otherwise, since a value that is passed
  over may hold any bytes between its quotes.

Which of the two has been shown can be told, since the text of a body is never the reason that stands
in it. A string is spelled with at least as many visible signs of ASCII as the text that it stands
for, not counting the quotes, and neither the lenient reading nor trimming loses one of them.

## Main definitions

* `Refusal.GivesReason`: JSON objects that give a reason.
* `Refusal.fallback`: what is shown where there is none.
* `Refusal.Quotes`: bodies in which a text stands as a string.

## Main results

* `Refusal.Quotes.marks_lt`: a text has fewer visible signs than a body in which it stands.
* `Refusal.reason_eq_iff_hasTextKeys`: which reasons that a body states are passed on.
* `Refusal.reason_eq_fallback_iff`: which bodies without a reason stand for themselves.
-/

namespace BrokerAdmin.Refusal

open Json Document Utf8

/-! ### Bodies without a reason -/

/-- Bytes that encode a text. -/
def IsUtf8 (bytes : Bytes) : Prop := ∃ text, bytes = encode text

/-- A body is a JSON object that gives a reason, and its keys are texts. One that has the key `reason`
more than once gives none, whatever the values. -/
def GivesReason (body : Bytes) : Prop :=
  IsUtf8 body ∧ HasTextKeys body ∧ ∃ r, StatesReason r body

/-- What is shown where there is no reason: the text of the body without the blanks around it, and
where nothing is left of it the phrase of the status. -/
def fallback (status : Status) (body : Bytes) : String :=
  let text := trimmed (decodeLossy body)
  if text = "" then status.reason.getD "unknown error" else text

theorem reason_of_error {body : Bytes} {fault : ReadFault}
    (h : schema.codec.ofBytes body = .error fault) (status : Status) :
    reason status body = fallback status body := by
  simp only [reason, h, fallback, bodyText, String.isEmpty_iff]

/-! ### Visible signs -/

/-- A character of ASCII with a visible sign. -/
def isMark (c : Char) : Bool := 0x21 ≤ c.toNat && c.toNat ≤ 0x7E

/-- How many of them a text has. -/
def marks (cs : List Char) : Nat := cs.countP isMark

/-- How many of them there are among some bytes. -/
def byteMarks (bytes : Bytes) : Nat := marks (asciiChars bytes)

theorem byteMarks_append (front rest : Bytes) :
    byteMarks (front ++ rest) = byteMarks front + byteMarks rest := by
  simp [byteMarks, marks, asciiChars]

theorem byteMarks_cons (b : UInt8) (rest : Bytes) :
    byteMarks (b :: rest) = byteMarks [b] + byteMarks rest := byteMarks_append [b] rest

theorem byteMarks_singleton_le (b : UInt8) : byteMarks [b] ≤ 1 :=
  List.countP_le_length.trans ((List.length_map _).trans_le (List.length_filter_le _ _))

/-- A character has as many marks as its bytes. -/
theorem byteMarks_encodeChar (c : Char) : byteMarks (encodeChar c) = marks [c] := by
  rcases Nat.lt_or_ge c.toNat 0x80 with h | h
  · have hbyte : UInt8.ofNat c.toNat < 0x80 := by
      rw [UInt8.lt_iff_toNat_lt, byte_toNat (by omega)]
      exact h
    rw [encodeChar_of_ascii h, byteMarks, asciiChars_cons_of_lt hbyte, byte_toNat (by omega),
      Char.ofNat_toNat]
    rfl
  · have hnone : (encodeChar c).filter (· < 0x80) = [] := List.filter_eq_nil_iff.2 fun b hb => by
      simpa [UInt8.lt_iff_toNat_lt] using le_of_mem_encodeChar h hb
    have hmark : isMark c = false := by
      simp only [isMark, Bool.and_eq_false_iff, decide_eq_false_iff_not]
      omega
    rw [byteMarks, asciiChars, hnone, marks, marks, List.countP_singleton, hmark]
    rfl

theorem byteMarks_encodeChar_le (c : Char) : byteMarks (encodeChar c) ≤ 1 := by
  rw [byteMarks_encodeChar]
  exact List.countP_le_length

theorem byteMarks_encodeChars (cs : List Char) : byteMarks (encodeChars cs) = marks cs := by
  induction cs with
  | nil => rfl
  | cons c cs ih =>
    rw [encodeChars_cons, byteMarks_append, byteMarks_encodeChar, ih]
    exact List.countP_append.symm

/-- Trimming takes no mark away. -/
theorem marks_dropWhile (cs : List Char) : marks (cs.dropWhile isBlank) = marks cs := by
  induction cs with
  | nil => rfl
  | cons c cs ih =>
    by_cases h : isBlank c = true
    · have hmark : ¬ isMark c = true := by
        simp only [isBlank, Bool.or_eq_true, Bool.and_eq_true, decide_eq_true_eq] at h
        simp only [isMark, Bool.and_eq_true, decide_eq_true_eq]
        omega
      rw [List.dropWhile_cons_of_pos h, ih, marks, marks, List.countP_cons_of_neg hmark]
    · rw [List.dropWhile_cons_of_neg h]

theorem marks_trimBlanks (cs : List Char) : marks (trimBlanks cs) = marks cs := by
  have hreverse : ∀ cs : List Char, marks cs.reverse = marks cs := fun _ => List.countP_reverse
  rw [trimBlanks, hreverse, marks_dropWhile, hreverse, marks_dropWhile]

/-- **The text of a body** has all marks of its bytes. -/
theorem byteMarks_le (body : Bytes) : byteMarks body ≤ marks (trimmed (decodeLossy body)).toList := by
  rw [trimmed, String.toList_ofList, marks_trimBlanks]
  exact (asciiChars_sublist_decodeLossy body).countP_le

/-! ### Strings in a body -/

theorem exists_of_arePieces_unit {n : Nat} {pieces : List Piece} {text : Bytes}
    (h : ArePieces (.unit n :: pieces) text) :
    ∃ digits rest, text = 0x5C :: (digits ++ rest) ∧ ArePieces pieces rest := by
  cases h with
  | @unit a b c d _ _ _ _ _ rest _ _ _ _ hrest => exact ⟨[0x75, a, b, c, d], rest, rfl, hrest⟩

/-- An escape with a number has a mark. -/
theorem byteMarks_of_unit {n : Nat} {pieces : List Piece} {text : Bytes}
    (h : ArePieces (.unit n :: pieces) text) :
    ∃ rest, ArePieces pieces rest ∧ byteMarks rest + 1 ≤ byteMarks text := by
  obtain ⟨digits, rest, rfl, hrest⟩ := exists_of_arePieces_unit h
  have hslash : byteMarks [0x5C] = 1 := by decide
  refine ⟨rest, hrest, ?_⟩
  rw [byteMarks_cons, byteMarks_append, hslash]
  omega

/-- What pieces stand for has no more marks than their text. -/
theorem byteMarks_le_of_denotes {pieces : List Piece} {content : Bytes}
    (h : Denotes pieces content) {text : Bytes} (htext : ArePieces pieces text) :
    byteMarks content ≤ byteMarks text := by
  induction h generalizing text with
  | nil => exact Nat.zero_le _
  | @byte b pieces content _ ih =>
    rw [byteMarks_cons]
    cases htext with
    | @plain _ _ rest _ hrest =>
      rw [byteMarks_cons b rest]
      exact Nat.add_le_add_left (ih hrest) _
    | @short e _ _ rest _ hrest =>
      have hslash : byteMarks [0x5C] = 1 := by decide
      have hbyte := byteMarks_singleton_le b
      have hle := ih hrest
      rw [byteMarks_cons 0x5C, byteMarks_cons e, hslash]
      omega
  | @unit c pieces content _ _ ih =>
    obtain ⟨rest, hrest, hmarks⟩ := byteMarks_of_unit htext
    have hchar := byteMarks_encodeChar_le c
    have hle := ih hrest
    rw [byteMarks_append]
    omega
  | @pair c pieces content _ _ ih =>
    obtain ⟨middle, hmiddle, hmarks⟩ := byteMarks_of_unit htext
    obtain ⟨rest, hrest, hmarks'⟩ := byteMarks_of_unit hmiddle
    have hchar := byteMarks_encodeChar_le c
    have hle := ih hrest
    rw [byteMarks_append]
    omega

/-- A string has more marks than its text, those of the quotes. -/
theorem marks_lt_of_isString {r : String} {text : Bytes} (h : IsString (some r) text) :
    marks r.toList < byteMarks text := by
  obtain ⟨pieces, content, hpieces, htext, rfl⟩ := h
  have hquote : byteMarks [0x22] = 1 := by decide
  have hle := byteMarks_le_of_denotes ((htext r).1 rfl) hpieces
  rw [encode, byteMarks_encodeChars] at hle
  rw [byteMarks_cons, byteMarks_append, hquote]
  omega

/-- Somewhere in some bytes, a text stands as a string. -/
def Quotes (r : String) (bytes : Bytes) : Prop :=
  ∃ front text back, IsString (some r) text ∧ bytes = front ++ (text ++ back)

theorem Quotes.marks_lt {r : String} {bytes : Bytes} (h : Quotes r bytes) :
    marks r.toList < byteMarks bytes := by
  obtain ⟨front, text, back, htext, rfl⟩ := h
  have hlt := marks_lt_of_isString htext
  rw [byteMarks_append, byteMarks_append]
  omega

theorem Quotes.within {r : String} {bytes all : Bytes} (h : Quotes r bytes) (front back : Bytes)
    (hall : all = front ++ (bytes ++ back)) : Quotes r all := by
  obtain ⟨before, text, after, htext, rfl⟩ := h
  exact ⟨front ++ before, text, after ++ back, htext, by simp [hall]⟩

theorem quotes_of_spacedText {r : String} {bytes : Bytes}
    (h : SpacedText (.string (some r)) bytes) : Quotes r bytes := by
  cases h with
  | @mk _ before text after _ htext _ =>
    cases htext with
    | string hstring => exact ⟨before, text, after, hstring, rfl⟩

theorem quotes_of_mem {key : Option String} {r : String} :
    ∀ {members : List (Option String × Document)} {text : Bytes}, MemberTexts members text →
      (key, .string (some r)) ∈ members → Quotes r text
  | _, _, @MemberTexts.last key' value name text _ hvalue, hmem => by
    obtain ⟨-, rfl⟩ := Prod.mk.inj (List.mem_singleton.1 hmem)
    exact (quotes_of_spacedText hvalue).within (name ++ [0x3A]) [0x7D] (by simp)
  | _, _, @MemberTexts.more key' value members name text rest _ hvalue hmore, hmem => by
    rcases List.mem_cons.1 hmem with heq | hmem
    · obtain ⟨-, rfl⟩ := Prod.mk.inj heq
      exact (quotes_of_spacedText hvalue).within (name ++ [0x3A]) (0x2C :: rest) (by simp)
    · exact (quotes_of_mem hmore hmem).within (name ++ 0x3A :: (text ++ [0x2C])) [] (by simp)

/-- The reason that a body states stands in it. -/
theorem StatesReason.quotes {r : String} {body : Bytes} (h : StatesReason r body) :
    Quotes r body := by
  obtain ⟨members, hbody, hgives⟩ := h
  have hmem : (some "reason", .string (some r)) ∈ members := hgives.mem
  cases hbody with
  | @mk _ before _ after _ htext _ =>
    cases htext with
    | emptyObject _ => cases hmem
    | object hmembers =>
      exact (quotes_of_mem hmembers hmem).within (before ++ [0x7B]) after (by simp)

/-- The reason that a body lists stands in it. -/
theorem ListsReason.quotes {r : String} {body : Bytes} (h : ListsReason r body) :
    Quotes r body := by
  cases h with
  | @mk _ before _ after _ htext _ =>
    cases htext with
    | array hitems =>
      cases hitems with
      | @last _ text hitem =>
        exact (quotes_of_spacedText hitem).within (before ++ [0x5B]) (0x5D :: after) (by simp)
      | more _ hmore => cases hmore

theorem quotes_of_ofBytes {r : String} {body : Bytes} (h : schema.codec.ofBytes body = .ok r) :
    Quotes r body := by
  rcases ofBytes_eq_ok_iff.1 h with ⟨hstates, -⟩ | hlists
  · exact hstates.quotes
  · exact hlists.quotes

/-- **What stands in a body** is not what the text of the body would be. -/
theorem Quotes.ne_fallback {r : String} {body : Bytes} (h : Quotes r body) (status : Status) :
    r ≠ fallback status body := by
  have hlt := h.marks_lt
  have hle := byteMarks_le body
  have htext : trimmed (decodeLossy body) ≠ "" := by
    intro hempty
    rw [hempty] at hle
    exact absurd (Nat.lt_of_lt_of_le hlt hle) (Nat.not_lt_zero _)
  rintro rfl
  rw [fallback, if_neg htext] at hlt
  omega

/-! ### Which reasons are passed on -/

/-- **Which reasons are passed on**: a body that states one is shown by it as it stands, whatever the
status, exactly if all keys of the object are texts. -/
theorem reason_eq_iff_hasTextKeys {r : String} {body : Bytes} (h : StatesReason r body)
    (status : Status) : reason status body = r ↔ HasTextKeys body := by
  constructor
  · intro hreason
    cases hread : schema.codec.ofBytes body with
    | error fault =>
      rw [reason_of_error hread] at hreason
      exact absurd hreason.symm (h.quotes.ne_fallback status)
    | ok r' =>
      rcases ofBytes_eq_ok_iff.1 hread with ⟨-, hkeys⟩ | hlists
      · exact hkeys
      · obtain ⟨members, hbody, -⟩ := h
        cases eq_of_spacedText hbody hlists
  · exact fun hkeys => reason_of_ofBytes (ofBytes_eq_ok_iff.2 (.inl ⟨h, hkeys⟩)) status

/-- A body with blanks, escapes and other members. The key and the reason are spelled with escapes,
among them a pair, and the values that are passed over hold half a pair and a number out of range. -/
def escapedBody : Bytes :=
  Utf8.encode (" \x7b\"a\" : [1e999, \x7b\"\\ud800\": \"\\udc00\"\x7d],\n" ++
    "\"r\\u0065ason\" :\t\" \\uD83D\\ude00\\n\" , \"a\": null\x7d ")

/-- The blanks around the reason stay where they are. -/
theorem reason_eq_escaped :
    StatesReason " 😀\n" escapedBody ∧ HasTextKeys escapedBody ∧
      reason 404 escapedBody = " 😀\n" := by
  have hread : schema.codec.ofBytes escapedBody = .ok " 😀\n" := by decide +kernel
  obtain ⟨hstates, hkeys⟩ := states_of_ofBytes hread (by decide +kernel)
  exact ⟨hstates, hkeys, (reason_eq_iff_hasTextKeys hstates 404).2 hkeys⟩

theorem spacedText_of_text {d : Document} {text : Bytes} (h : Text d text) : SpacedText d text := by
  have hgap : IsGap [] := fun b hb => absurd hb List.not_mem_nil
  simpa using SpacedText.mk hgap h hgap

theorem isString_of_scanString {text : Option String} {front : Bytes}
    (h : scanString front = .ok (text, [])) : IsString text (0x22 :: front) := by
  obtain ⟨front', hstring, heq⟩ := scanString_eq_ok_iff.1 h
  rw [List.append_nil] at heq
  rwa [heq]

/-- A member with another key may stand in front of the reason. -/
theorem statesReason_of_isString {key : Option String} {r : String} {name text : Bytes}
    (hkey : IsString key name) (hne : key ≠ some "reason") (htext : IsString (some r) text) :
    StatesReason r (0x7B :: (name ++ 0x3A :: (encode "null" ++
      0x2C :: (encode "\"reason\"" ++ 0x3A :: (text ++ [0x7D]))))) := by
  have hname : IsString (some "reason") (encode "\"reason\"") :=
    isString_of_scanString (by decide +kernel)
  have hmembers := MemberTexts.more (spacedText_of_text (.string hkey)) (spacedText_of_text .null)
    (.last (spacedText_of_text (.string hname)) (spacedText_of_text (.string htext)))
  exact ⟨_, spacedText_of_text (.object hmembers), by simp [Gives, hne]⟩

/-- A body whose first key holds half a pair. -/
def halfPairBody : Bytes := encode "\x7b\"\\ud800\":null,\"reason\":\"x\"\x7d"

/-- A reason behind such a key is not passed on: the text of the body is shown. -/
theorem reason_ne_halfPair :
    StatesReason "x" halfPairBody ∧
      reason 404 halfPairBody = "\x7b\"\\ud800\":null,\"reason\":\"x\"\x7d" := by
  have hkey : IsString none (encode "\"\\ud800\"") := isString_of_scanString (by decide +kernel)
  have htext : IsString (some "x") (encode "\"x\"") := isString_of_scanString (by decide +kernel)
  have hstates := statesReason_of_isString hkey (by simp) htext
  have hbytes : 0x7B :: (encode "\"\\ud800\"" ++ 0x3A :: (encode "null" ++
      0x2C :: (encode "\"reason\"" ++ 0x3A :: (encode "\"x\"" ++ [0x7D])))) = halfPairBody := by
    decide +kernel
  exact ⟨hbytes ▸ hstates, by decide +kernel⟩

/-! ### Which bodies stand for themselves -/

/-- **Which bodies without a reason stand for themselves**: all but the arrays that hold a text and
nothing else, and what would be an object with a reason if its bytes were UTF-8. -/
theorem reason_eq_fallback_iff {body : Bytes} (h : ¬ GivesReason body) (status : Status) :
    reason status body = fallback status body ↔
      (∀ r, ¬ ListsReason r body) ∧
        (IsUtf8 body ∨ ∀ r, ¬ (StatesReason r body ∧ HasTextKeys body)) := by
  cases hread : schema.codec.ofBytes body with
  | error fault =>
    have hnone : ∀ r, ¬ ((StatesReason r body ∧ HasTextKeys body) ∨ ListsReason r body) := by
      intro r hr
      rw [ofBytes_eq_ok_iff.2 hr] at hread
      cases hread
    exact iff_of_true (reason_of_error hread status)
      ⟨fun r hr => hnone r (.inr hr), .inr fun r hr => hnone r (.inl hr)⟩
  | ok r =>
    rw [reason_of_ofBytes hread]
    refine iff_of_false ((quotes_of_ofBytes hread).ne_fallback status) ?_
    rintro ⟨hlist, hobject⟩
    rcases ofBytes_eq_ok_iff.1 hread with hstates | hlists
    · rcases hobject with hutf8 | hobject
      · exact h ⟨hutf8, hstates.2, r, hstates.1⟩
      · exact hobject r hstates
    · exact hlist r hlists

/-- The text of an array gives no reason. -/
theorem not_givesReason_of_array {items : List Document} {flaw : Option Flaw} {body : Bytes}
    (h : SpacedText (.array items flaw) body) : ¬ GivesReason body := by
  rintro ⟨-, ⟨members, hbody, -⟩, -⟩
  cases eq_of_spacedText h hbody

/-- The array of some texts, as it is printed. -/
def printed (texts : List String) : Bytes := encode (Value.array (texts.map .string)).compact

theorem spacedText_printed (texts : List String) :
    SpacedText (.array (texts.map fun s => .string (some s)) none) (printed texts) := by
  have hitems : ∀ texts : List String, Value.AreExact (texts.map .string) ∧
      ofItems (texts.map .string) = texts.map fun s => .string (some s) := by
    intro texts
    induction texts with
    | nil => exact ⟨trivial, rfl⟩
    | cons s texts ih => exact ⟨⟨trivial, ih.1⟩, congrArg (_ :: ·) ih.2⟩
  have hspaced := spacedText_of_spaced (Value.written_compactChars
    (v := Value.array (texts.map .string)) (hitems texts).1).spaced
  rw [ofValue, (hitems texts).2] at hspaced
  rwa [printed, encode, Value.compact, String.toList_ofList]

/-- An array with two texts stands for itself. -/
theorem reason_eq_fallback_twoTexts :
    ¬ GivesReason (encode "[\"a\",\"b\"]") ∧
      reason 400 (encode "[\"a\",\"b\"]") = fallback 400 (encode "[\"a\",\"b\"]") ∧
      fallback 400 (encode "[\"a\",\"b\"]") = "[\"a\",\"b\"]" := by
  have hprinted : printed ["a", "b"] = encode "[\"a\",\"b\"]" := by decide +kernel
  have htexts := hprinted ▸ spacedText_printed ["a", "b"]
  have hnone := not_givesReason_of_array htexts
  have hlist : ∀ r, ¬ ListsReason r (encode "[\"a\",\"b\"]") := by
    intro r hr
    cases eq_of_spacedText htexts hr
  exact ⟨hnone, (reason_eq_fallback_iff hnone 400).2 ⟨hlist, .inl ⟨_, rfl⟩⟩, by decide +kernel⟩

/-- An array with one text does not. -/
theorem reason_ne_fallback_oneText :
    ¬ GivesReason (encode "[\"x\"]") ∧ reason 400 (encode "[\"x\"]") = "x" ∧
      fallback 400 (encode "[\"x\"]") = "[\"x\"]" := by
  have hprinted : printed ["x"] = encode "[\"x\"]" := by decide +kernel
  have htext := hprinted ▸ spacedText_printed ["x"]
  exact ⟨not_givesReason_of_array htext, by decide +kernel, by decide +kernel⟩

end BrokerAdmin.Refusal
