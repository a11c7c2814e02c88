import BrokerAdmin.MessageId
import BrokerAdmin.Proofs.IntegerText
import BrokerAdmin.Proofs.Result
import BrokerAdmin.Proofs.Text

/-!
# The text of a message id

A text denotes an id by two to four integers with colons between them, and blanks may stand at its
two ends. No integer has a colon or a blank, so there is one way to cut a text into fields, and the
blanks are those that are trimmed off.

The fields differ in what they can hold. All four are read as integers with sign, and the two checks
at the end of the reader take away the negative ones, but for the `-1` of an index. Zero is not
negative however it is written, so `-0` is a ledger like any other.

The text that an id is written as is one of those that denote it, so it reads back.

## Main definitions

* `MessageId.HasFields`: the integers of an id, with colons between them.
* `MessageId.Denotes`: a text denotes an id.

## Main results

* `MessageId.ofFields_eq_ok_iff`: the id that fields give.
* `MessageId.parse_eq_ok_iff`: the reader finds what the grammar says.
* `MessageId.ofText_grammar`: which texts are accepted, and the error of all others.
* `MessageId.parse_append_toText_append`: the text of a valid id reads back, also with blanks around.
* `MessageId.toText_injective`: valid ids differ in their texts.
* `MessageId.valid_of_parse`: an id that is read is valid.
-/

namespace BrokerAdmin.MessageId

open Result

/-! ### The grammar -/

/-- The integers of an id, with colons between them. The index of a field that is left out is `-1`. -/
inductive HasFields : List Char → MessageId → Prop
  /-- The ledger and the entry. -/
  | position {l e : List Char} {ledger entry : Int} : IsSignedNumeral ledger l →
      IsSignedNumeral entry e → HasFields (l ++ ':' :: e) ⟨ledger, entry, -1, -1⟩
  /-- The ledger, the entry and the partition. -/
  | partition {l e p : List Char} {ledger entry partition : Int} : IsSignedNumeral ledger l →
      IsSignedNumeral entry e → IsSignedNumeral partition p →
      HasFields (l ++ ':' :: e ++ ':' :: p) ⟨ledger, entry, partition, -1⟩
  /-- All four. -/
  | batch {l e p b : List Char} {ledger entry partition batch : Int} : IsSignedNumeral ledger l →
      IsSignedNumeral entry e → IsSignedNumeral partition p → IsSignedNumeral batch b →
      HasFields (l ++ ':' :: e ++ ':' :: p ++ ':' :: b) ⟨ledger, entry, partition, batch⟩

/-- A text denotes an id: it has the integers of the id, which are in range, and blanks at its two
ends. -/
def Denotes (s : String) (id : MessageId) : Prop :=
  id.Valid ∧ ∃ before fields after, (∀ c ∈ before, isBlank c) ∧ (∀ c ∈ after, isBlank c) ∧
    s.toList = before ++ fields ++ after ∧ HasFields fields id

/-! ### Fields -/

theorem Part.range_low_le (part : Part) : part.range.low ≤ noIndex := by cases part <;> decide

theorem Part.le_range_high (part : Part) : 0 ≤ part.range.high := by cases part <;> decide

/-- The numbers of a valid id are those that the fields can hold and the checks let pass. -/
theorem valid_iff {id : MessageId} : id.Valid ↔
    (0 ≤ id.ledger ∧ id.ledger ≤ Part.ledger.range.high) ∧
    (0 ≤ id.entry ∧ id.entry ≤ Part.entry.range.high) ∧
    (noIndex ≤ id.partition ∧ id.partition ≤ Part.partition.range.high) ∧
    (noIndex ≤ id.batch ∧ id.batch ≤ Part.batch.range.high) :=
  ⟨fun h => ⟨h.ledger, h.entry, h.partition, h.batch⟩, fun ⟨hl, he, hp, hb⟩ => ⟨hl, he, hp, hb⟩⟩

/-- The numbers that a field is read as. -/
theorem Part.read_eq_ok_iff {part : Part} {cs : List Char} {n : Int} :
    part.read cs = .ok n ↔ IsSignedNumeral n cs ∧ part.range.low ≤ n ∧ n ≤ part.range.high := by
  have hlow : part.range.low < 0 := Int.lt_of_le_of_lt part.range_low_le (by decide)
  rw [← IntegerRange.readChars_eq_ok_iff_of_low_neg hlow part.le_range_high, Part.read]
  cases part.range.readChars cs <;> simp

/-- The number that a field gives, or that of a field which is left out. -/
def IsGiven (n : Int) : Option (List Char) → Prop
  | some cs => IsSignedNumeral n cs
  | none => n = noIndex

theorem Part.readOption_eq_ok_iff {part : Part} {cs : Option (List Char)} {n : Int} :
    part.readOption cs = .ok n ↔ IsGiven n cs ∧ part.range.low ≤ n ∧ n ≤ part.range.high := by
  cases cs with
  | some cs => exact Part.read_eq_ok_iff
  | none =>
    rw [Part.readOption, Except.ok.injEq]
    constructor
    · rintro rfl
      exact ⟨rfl, part.range_low_le, Int.le_trans (by decide) part.le_range_high⟩
    · rintro ⟨rfl, -⟩
      rfl

/-- **The id that fields give**: the one whose integers they are, if these are in range. -/
theorem ofFields_eq_ok_iff {ledger entry : List Char} {partition batch : Option (List Char)}
    {id : MessageId} : ofFields ledger entry partition batch = .ok id ↔
      id.Valid ∧ IsSignedNumeral id.ledger ledger ∧ IsSignedNumeral id.entry entry ∧
        IsGiven id.partition partition ∧ IsGiven id.batch batch := by
  constructor
  · intro h
    obtain ⟨l, hl, h⟩ := bind_eq_ok_iff.1 h
    obtain ⟨e, he, h⟩ := bind_eq_ok_iff.1 h
    obtain ⟨p, hp, h⟩ := bind_eq_ok_iff.1 h
    obtain ⟨b, hb, h⟩ := bind_eq_ok_iff.1 h
    obtain ⟨hl, -, hlhigh⟩ := Part.read_eq_ok_iff.1 hl
    obtain ⟨he, -, hehigh⟩ := Part.read_eq_ok_iff.1 he
    obtain ⟨hp, -, hphigh⟩ := Part.readOption_eq_ok_iff.1 hp
    obtain ⟨hb, -, hbhigh⟩ := Part.readOption_eq_ok_iff.1 hb
    split at h
    · cases h
    · next hposition =>
      split at h
      · cases h
      · next hindex =>
        obtain rfl := Except.ok.inj h
        have hposition' : 0 ≤ l ∧ 0 ≤ e := by simpa using hposition
        have hindex' : noIndex ≤ p ∧ noIndex ≤ b := by simpa using hindex
        exact ⟨valid_iff.2 ⟨⟨hposition'.1, hlhigh⟩, ⟨hposition'.2, hehigh⟩, ⟨hindex'.1, hphigh⟩,
          ⟨hindex'.2, hbhigh⟩⟩, hl, he, hp, hb⟩
  · rintro ⟨valid, hl, he, hp, hb⟩
    obtain ⟨⟨hl0, hlhigh⟩, ⟨he0, hehigh⟩, ⟨hp0, hphigh⟩, ⟨hb0, hbhigh⟩⟩ := valid_iff.1 valid
    have hlow : ∀ part : Part, ∀ {n : Int}, noIndex ≤ n → part.range.low ≤ n :=
      fun part _ h => Int.le_trans part.range_low_le h
    have hzero : noIndex ≤ 0 := by decide
    have hposition : (decide (id.ledger < 0) || decide (id.entry < 0)) = false := by
      simp [hl0, he0]
    have hindex : (decide (id.partition < noIndex) || decide (id.batch < noIndex)) = false := by
      simp [hp0, hb0]
    rw [ofFields,
      Part.read_eq_ok_iff.2 ⟨hl, hlow _ (Int.le_trans hzero hl0), hlhigh⟩, ok_bind,
      Part.read_eq_ok_iff.2 ⟨he, hlow _ (Int.le_trans hzero he0), hehigh⟩, ok_bind,
      Part.readOption_eq_ok_iff.2 ⟨hp, hlow _ hp0, hphigh⟩, ok_bind,
      Part.readOption_eq_ok_iff.2 ⟨hb, hlow _ hb0, hbhigh⟩, ok_bind, hposition, hindex]
    rfl

/-! ### Cutting a text into fields -/

theorem colon_notMem_of_isSignedNumeral {n : Int} {cs : List Char} (h : IsSignedNumeral n cs) :
    ':' ∉ cs := by
  intro hc
  rcases h.isDigit_or hc with hdigit | hsign | hsign
  · exact absurd hdigit (by decide)
  · exact absurd hsign (by decide)
  · exact absurd hsign (by decide)

/-- An integer is a field of its own. -/
theorem splitFields_of_isSignedNumeral {n : Int} {cs : List Char} (h : IsSignedNumeral n cs) :
    splitFields ':' cs = [cs] :=
  splitFields_of_notMem (colon_notMem_of_isSignedNumeral h)

theorem HasFields.not_isBlank {fields : List Char} {id : MessageId} (h : HasFields fields id) :
    ∀ c ∈ fields, isBlank c = false := by
  have hnumeral : ∀ {n : Int} {cs : List Char}, IsSignedNumeral n cs →
      ∀ c ∈ cs, isBlank c = false := by
    intro n cs hcs c hc
    rcases hcs.isDigit_or hc with hdigit | rfl | rfl
    · exact isBlank_of_isDigit hdigit
    · rfl
    · rfl
  have happend : ∀ {xs ys : List Char}, (∀ c ∈ xs, isBlank c = false) →
      (∀ c ∈ ys, isBlank c = false) → ∀ c ∈ xs ++ ':' :: ys, isBlank c = false := by
    intro xs ys hxs hys c hc
    simp only [List.mem_append, List.mem_cons] at hc
    rcases hc with hc | rfl | hc
    · exact hxs c hc
    · rfl
    · exact hys c hc
  cases h with
  | position hl he => exact happend (hnumeral hl) (hnumeral he)
  | partition hl he hp => exact happend (happend (hnumeral hl) (hnumeral he)) (hnumeral hp)
  | batch hl he hp hb =>
    exact happend (happend (happend (hnumeral hl) (hnumeral he)) (hnumeral hp)) (hnumeral hb)

/-! ### The reader -/

/-- What is left of a text without the blanks around it is read as fields. -/
theorem parse_eq_ok_iff_hasFields {s : String} {id : MessageId} :
    parse s = .ok id ↔ id.Valid ∧ HasFields (trimBlanks s.toList) id := by
  rw [parse]
  generalize trimBlanks s.toList = cs
  constructor
  · intro h
    have hjoin := joinFields_splitFields ':' cs
    obtain ⟨ledger, entry, partition, batch⟩ := id
    split at h
    · next l e hfields =>
      obtain ⟨valid, hl, he, hp, hb⟩ := ofFields_eq_ok_iff.1 h
      obtain rfl : partition = -1 := hp
      obtain rfl : batch = -1 := hb
      rw [hfields] at hjoin
      exact ⟨valid, hjoin ▸ .position hl he⟩
    · next l e p hfields =>
      obtain ⟨valid, hl, he, hp, hb⟩ := ofFields_eq_ok_iff.1 h
      obtain rfl : batch = -1 := hb
      have hcs : cs = l ++ ':' :: e ++ ':' :: p := by
        rw [← hjoin, hfields]
        simp [joinFields]
      exact ⟨valid, hcs ▸ .partition hl he hp⟩
    · next l e p b hfields =>
      obtain ⟨valid, hl, he, hp, hb⟩ := ofFields_eq_ok_iff.1 h
      have hcs : cs = l ++ ':' :: e ++ ':' :: p ++ ':' :: b := by
        rw [← hjoin, hfields]
        simp [joinFields]
      exact ⟨valid, hcs ▸ .batch hl he hp hb⟩
    · cases h
  · rintro ⟨valid, hfields⟩
    cases hfields with
    | position hl he =>
      rw [splitFields_append, splitFields_of_isSignedNumeral hl, splitFields_of_isSignedNumeral he]
      exact ofFields_eq_ok_iff.2 ⟨valid, hl, he, rfl, rfl⟩
    | partition hl he hp =>
      rw [splitFields_append, splitFields_append, splitFields_of_isSignedNumeral hl,
        splitFields_of_isSignedNumeral he, splitFields_of_isSignedNumeral hp]
      exact ofFields_eq_ok_iff.2 ⟨valid, hl, he, hp, rfl⟩
    | batch hl he hp hb =>
      rw [splitFields_append, splitFields_append, splitFields_append,
        splitFields_of_isSignedNumeral hl, splitFields_of_isSignedNumeral he,
        splitFields_of_isSignedNumeral hp, splitFields_of_isSignedNumeral hb]
      exact ofFields_eq_ok_iff.2 ⟨valid, hl, he, hp, hb⟩

/-- **The reader finds what the grammar says**, and refuses all other texts. -/
theorem parse_eq_ok_iff {s : String} {id : MessageId} : parse s = .ok id ↔ Denotes s id := by
  rw [parse_eq_ok_iff_hasFields]
  constructor
  · rintro ⟨valid, hfields⟩
    obtain ⟨before, after, hbefore, hafter, hs⟩ := (trimBlanks_eq_iff hfields.not_isBlank).1 rfl
    exact ⟨valid, before, _, after, hbefore, hafter, hs, hfields⟩
  · rintro ⟨valid, before, fields, after, hbefore, hafter, hs, hfields⟩
    rw [(trimBlanks_eq_iff hfields.not_isBlank).2 ⟨before, after, hbefore, hafter, hs⟩]
    exact ⟨valid, hfields⟩

/-- **An id that is read is valid.** -/
theorem valid_of_parse {s : String} {id : MessageId} (h : parse s = .ok id) : id.Valid :=
  (parse_eq_ok_iff.1 h).1

/-- The error of a text that is no id is worded later, which changes nothing about the ids. -/
theorem ofText_eq_ok_iff {s : String} {id : MessageId} : ofText s = .ok id ↔ parse s = .ok id := by
  rw [ofText]
  cases parse s <;> simp

/-- **Which texts are accepted, and the error of all others.** A text is accepted exactly when it
denotes an id, which is then the result: between blanks it has two, three or four integers with colons
between them, each of them digits behind a sign or not, the ledger and the entry from zero on and the
indices from `-1` on, as far as they have room in 64 and 32 bits, and an index that is left out is
`-1`. Any other text is an error that names the text as it was given, blanks included. -/
theorem ofText_grammar (s : String) :
    (∀ id, ofText s = .ok id ↔ Denotes s id) ∧
    ((∀ id, ¬ Denotes s id) ↔
      ∃ fault : Fault, ofText s = .error (.malformedIdentity s fault.message)) := by
  simp only [← parse_eq_ok_iff]
  refine ⟨fun _ => ofText_eq_ok_iff, ?_⟩
  rw [ofText]
  cases parse s with
  | ok id => simp
  | error fault => simp

/-- Blanks outside of ASCII, a plus sign, zeros in front, and a zero with a minus sign. -/
example : ofText "\u3000+007:-0:-1\n" = .ok ⟨7, 0, -1, -1⟩ := by decide +kernel

/-- One more than the greatest ledger. -/
example : ofText " 9223372036854775808:0" = .error (.malformedIdentity " 9223372036854775808:0"
    "ledger id '9223372036854775808': number too large to fit in target type") := by
  decide +kernel

/-! ### From an id to its text and back -/

/-- **The text of a valid id denotes it**, also with blanks around it. -/
theorem denotes_append_toText_append {id : MessageId} (valid : id.Valid) {before after : String}
    (hbefore : ∀ c ∈ before.toList, isBlank c) (hafter : ∀ c ∈ after.toList, isBlank c) :
    Denotes (before ++ id.toText ++ after) id := by
  have hfields : HasFields id.toChars id :=
    .batch (isSignedNumeral_intChars _) (isSignedNumeral_intChars _) (isSignedNumeral_intChars _)
      (isSignedNumeral_intChars _)
  refine ⟨valid, _, id.toChars, _, hbefore, hafter, ?_, hfields⟩
  rw [String.toList_append, String.toList_append, toText, String.toList_ofList]

/-- **The text of a valid id reads back**, also with blanks around it. -/
theorem parse_append_toText_append {id : MessageId} (valid : id.Valid) {before after : String}
    (hbefore : ∀ c ∈ before.toList, isBlank c) (hafter : ∀ c ∈ after.toList, isBlank c) :
    parse (before ++ id.toText ++ after) = .ok id :=
  parse_eq_ok_iff.2 (denotes_append_toText_append valid hbefore hafter)

theorem parse_toText {id : MessageId} (valid : id.Valid) : parse id.toText = .ok id := by
  have h : parse ("" ++ id.toText ++ "") = .ok id :=
    parse_append_toText_append valid (by simp) (by simp)
  simpa using h

/-- **Valid ids differ in their texts.** -/
theorem toText_injective {id id' : MessageId} (valid : id.Valid) (valid' : id'.Valid)
    (h : id.toText = id'.toText) : id = id' := by
  have hparse := parse_toText valid
  rw [h, parse_toText valid'] at hparse
  exact (Except.ok.inj hparse).symm

end BrokerAdmin.MessageId
