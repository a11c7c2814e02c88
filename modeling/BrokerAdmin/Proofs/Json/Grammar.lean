import BrokerAdmin.Proofs.Json.Grammar.Numerals
import BrokerAdmin.Proofs.Json.Grammar.Strings
import Mathlib.Data.List.DropRight

/-!
# The grammar of JSON

The texts of a document are described here by the grammar of JSON, token by token and without the
reader: blanks may stand in front of each token and behind the last one. What is read does not depend
on them. The reader passes over blanks before it looks at a byte, so a text is followed token by token
and the blanks between them are dropped where they are met.

An array or an object is left at its closing sign, so its items can be followed by anything.

## Main definitions

* `Document.Text`, `Document.SpacedText`: the texts of a document, and the same with blanks around
  them.

## Main results

* `Document.reads`: any text of a document is read.
* `Document.ofBytes_of_spacedText`: so is a whole text, with nothing left behind it.
-/

namespace BrokerAdmin.Json.Document

/-! ### Texts of documents -/

/-- Nothing but the blanks of JSON: spaces, line feeds, carriage returns and tabs. -/
def IsGap (bytes : Bytes) : Prop := ∀ b ∈ bytes, b = 0x20 ∨ b = 0x0A ∨ b = 0x0D ∨ b = 0x09

mutual

/-- The texts of a document. Inside of arrays and objects there may be blanks. -/
inductive Text : Document → Bytes → Prop
  /-- The word `null`. -/
  | null : Text .null [0x6E, 0x75, 0x6C, 0x6C]
  /-- The word `true`. -/
  | true : Text (.bool true) [0x74, 0x72, 0x75, 0x65]
  /-- The word `false`. -/
  | false : Text (.bool false) [0x66, 0x61, 0x6C, 0x73, 0x65]
  /-- A numeral without a sign. -/
  | number {numeral : Numeral} {text : Bytes} : numeral.negative = false →
      IsNumeral numeral text → Text (.number numeral) text
  /-- A numeral behind a minus. -/
  | negative {numeral : Numeral} {text : Bytes} : numeral.negative = true →
      IsNumeral numeral text → Text (.number numeral) (0x2D :: text)
  /-- A string. -/
  | string {s : Option String} {text : Bytes} : IsString s text → Text (.string s) text
  /-- Brackets without items. -/
  | emptyArray {gap : Bytes} : IsGap gap → Text (.array [] none) (0x5B :: (gap ++ [0x5D]))
  /-- Brackets with items. -/
  | array {items : List Document} {text : Bytes} : ItemTexts items text →
      Text (.array items none) (0x5B :: text)
  /-- Braces without members. -/
  | emptyObject {gap : Bytes} : IsGap gap → Text (.object [] none) (0x7B :: (gap ++ [0x7D]))
  /-- Braces with members. -/
  | object {members : List (Option String × Document)} {text : Bytes} : MemberTexts members text →
      Text (.object members none) (0x7B :: text)

/-- The texts of a document with blanks around them. -/
inductive SpacedText : Document → Bytes → Prop
  /-- Blanks, the text, and blanks again. -/
  | mk {d : Document} {before text after : Bytes} : IsGap before → Text d text → IsGap after →
      SpacedText d (before ++ (text ++ after))

/-- The texts of one or more items of an array, with commas between them, and the closing bracket. -/
inductive ItemTexts : List Document → Bytes → Prop
  /-- The last item. -/
  | last {item : Document} {text : Bytes} : SpacedText item text →
      ItemTexts [item] (text ++ [0x5D])
  /-- An item that is followed by others. -/
  | more {item : Document} {items : List Document} {text rest : Bytes} : SpacedText item text →
      ItemTexts items rest → ItemTexts (item :: items) (text ++ 0x2C :: rest)

/-- The texts of one or more members of an object, with commas between them, and the closing brace. A
member is a string, a colon and a value. -/
inductive MemberTexts : List (Option String × Document) → Bytes → Prop
  /-- The last member. -/
  | last {key : Option String} {value : Document} {name text : Bytes} :
      SpacedText (.string key) name → SpacedText value text →
      MemberTexts [(key, value)] (name ++ 0x3A :: (text ++ [0x7D]))
  /-- A member that is followed by others. -/
  | more {key : Option String} {value : Document} {members : List (Option String × Document)}
      {name text rest : Bytes} : SpacedText (.string key) name → SpacedText value text →
      MemberTexts members rest →
      MemberTexts ((key, value) :: members) (name ++ 0x3A :: (text ++ 0x2C :: rest))

end

/-! ### Blanks are passed over -/

theorem isJsonBlank_iff {b : UInt8} :
    isJsonBlank b = true ↔ b = 0x20 ∨ b = 0x0A ∨ b = 0x0D ∨ b = 0x09 := by
  simp [isJsonBlank, or_assoc]

theorem skipBlanks_append {gap : Bytes} (h : IsGap gap) (rest : Bytes) :
    skipBlanks (gap ++ rest) = skipBlanks rest :=
  List.dropWhile_append_of_pos fun b hb => isJsonBlank_iff.2 (h b hb)

theorem exists_gap (bytes : Bytes) : ∃ gap, IsGap gap ∧ bytes = gap ++ skipBlanks bytes :=
  ⟨bytes.takeWhile isJsonBlank, fun _ hb => isJsonBlank_iff.1 (List.mem_takeWhile_imp hb),
    List.takeWhile_append_dropWhile.symm⟩

theorem skipBlanks_skipBlanks (bytes : Bytes) : skipBlanks (skipBlanks bytes) = skipBlanks bytes :=
  List.dropWhile_idempotent isJsonBlank bytes

/-- No numeral goes on with a blank. -/
theorem Stops.append {gap : Bytes} (h : IsGap gap) {rest : Bytes} (hrest : Stops rest) :
    Stops (gap ++ rest) := by
  cases gap with
  | nil => exact hrest
  | cons b gap =>
    intro b' hb'
    obtain rfl := Option.some.inj hb'
    rcases h b List.mem_cons_self with rfl | rfl | rfl | rfl <;> decide

theorem scanValue_congr (fuel : Nat) {bytes bytes' : Bytes}
    (h : skipBlanks bytes = skipBlanks bytes') : scanValue fuel bytes = scanValue fuel bytes' := by
  cases fuel with
  | zero => rw [scanValue, scanValue]
  | succ fuel => simp only [scanValue, h]

theorem scanItems_congr (fuel : Nat) {bytes bytes' : Bytes}
    (h : skipBlanks bytes = skipBlanks bytes') : scanItems fuel bytes = scanItems fuel bytes' := by
  cases fuel with
  | zero => rw [scanItems, scanItems]
  | succ fuel => simp only [scanItems, scanValue_congr fuel h]

theorem scanMembers_congr (fuel : Nat) {bytes bytes' : Bytes}
    (h : skipBlanks bytes = skipBlanks bytes') :
    scanMembers fuel bytes = scanMembers fuel bytes' := by
  cases fuel with
  | zero => rw [scanMembers, scanMembers]
  | succ fuel => simp only [scanMembers, h]

/-! ### What a text begins with -/

/-- What the text of a value begins with: no blank, and no closing bracket. -/
def Starts (b : UInt8) : Prop := isJsonBlank b = false ∧ b ≠ 0x5D

theorem skipBlanks_of_starts {b : UInt8} (h : Starts b) (rest : Bytes) :
    skipBlanks (b :: rest) = b :: rest :=
  List.dropWhile_cons_of_neg (by simp [h.1])

theorem starts_of_isDigit {b : UInt8} (h : isDigit b = true) : Starts b := by
  have hblank : isJsonBlank b = false := by
    simp [isJsonBlank, ne_of_isDigit h (d := 0x20) rfl, ne_of_isDigit h (d := 0x0A) rfl,
      ne_of_isDigit h (d := 0x0D) rfl, ne_of_isDigit h (d := 0x09) rfl]
  exact ⟨hblank, ne_of_isDigit h rfl⟩

theorem scanValue_of_isDigit (fuel : Nat) {b : UInt8} (hb : isDigit b = true) (rest : Bytes) :
    scanValue (fuel + 1) (b :: rest) = scanNumber false (b :: rest) := by
  rw [scanValue, skipBlanks_of_starts (starts_of_isDigit hb)]
  simp only [ne_of_isDigit hb (d := 0x6E) rfl, ne_of_isDigit hb (d := 0x74) rfl,
    ne_of_isDigit hb (d := 0x66) rfl, ne_of_isDigit hb (d := 0x2D) rfl, if_false, hb, if_true]

theorem IsNumeral.exists_cons {numeral : Numeral} {text : Bytes} (h : IsNumeral numeral text) :
    ∃ b rest, text = b :: rest ∧ isDigit b = true := by
  cases h with
  | mk hne hdigits _ _ _ =>
    obtain ⟨b, rest, rfl, hb⟩ := exists_cons_of_areDigits hdigits hne
    exact ⟨b, _, rfl, hb⟩

/-- The text of a document is not empty and does not close an array. -/
theorem Text.exists_cons {d : Document} {text : Bytes} (h : Text d text) :
    ∃ b rest, text = b :: rest ∧ Starts b := by
  cases h with
  | number _ h =>
    obtain ⟨b, rest, rfl, hb⟩ := h.exists_cons
    exact ⟨b, rest, rfl, starts_of_isDigit hb⟩
  | string h =>
    obtain ⟨pieces, content, -, -, rfl⟩ := h
    exact ⟨_, _, rfl, by decide, by decide⟩
  | _ => exact ⟨_, _, rfl, by decide, by decide⟩

/-- With blanks around it, a text begins like that of the document once they are passed over. -/
theorem SpacedText.exists_cons {d : Document} {text : Bytes} (h : SpacedText d text)
    (rest : Bytes) : ∃ b left, skipBlanks (text ++ rest) = b :: left ∧ Starts b := by
  cases h with
  | @mk _ before text after hbefore htext _ =>
    obtain ⟨b, left, rfl, hb⟩ := htext.exists_cons
    refine ⟨b, left ++ (after ++ rest), ?_, hb⟩
    rw [List.append_assoc, List.append_assoc, skipBlanks_append hbefore, List.cons_append,
      skipBlanks_of_starts hb]

theorem ItemTexts.exists_cons {items : List Document} {text : Bytes} (h : ItemTexts items text)
    (rest : Bytes) : ∃ b left, skipBlanks (text ++ rest) = b :: left ∧ Starts b := by
  cases h with
  | last hitem | more hitem _ =>
    rw [List.append_assoc]
    exact hitem.exists_cons _

/-- The key of a member, with what follows it. -/
theorem SpacedText.exists_key {key : Option String} {name : Bytes}
    (h : SpacedText (.string key) name) (rest : Bytes) : ∃ inside left,
      skipBlanks (name ++ rest) = 0x22 :: inside ∧
      scanString inside = .ok (key, left) ∧ skipBlanks left = skipBlanks rest := by
  cases h with
  | @mk _ before text after hbefore htext hafter =>
    cases htext with
    | string hstring =>
      obtain ⟨front, rfl⟩ : ∃ front, text = 0x22 :: front := by
        obtain ⟨_, _, -, -, rfl⟩ := hstring
        exact ⟨_, rfl⟩
      refine ⟨front ++ (after ++ rest), after ++ rest, ?_,
        scanString_eq_ok_iff.2 ⟨front, hstring, rfl⟩, skipBlanks_append hafter rest⟩
      rw [List.append_assoc, List.append_assoc, skipBlanks_append hbefore, List.cons_append,
        skipBlanks_of_starts ⟨rfl, by decide⟩]

theorem MemberTexts.exists_cons {members : List (Option String × Document)} {text : Bytes}
    (h : MemberTexts members text) (rest : Bytes) :
    ∃ left, skipBlanks (text ++ rest) = 0x22 :: left := by
  cases h with
  | last hkey _ | more hkey _ _ =>
    obtain ⟨inside, -, hopen, -⟩ := hkey.exists_key _
    exact ⟨inside, by rw [List.append_assoc, hopen]⟩

/-! ### One step of the reader -/

theorem scanValue_emptyArray (fuel : Nat) {bytes rest : Bytes}
    (h : skipBlanks bytes = 0x5D :: rest) :
    scanValue (fuel + 1) (0x5B :: bytes) = (.array [] none, some rest) := by
  rw [scanValue, skipBlanks_of_starts ⟨rfl, by decide⟩]
  simp +decide only [if_false, if_true, h]

theorem scanValue_array (fuel : Nat) {b : UInt8} {bytes bytes' : Bytes}
    (h : skipBlanks bytes = b :: bytes') (hb : Starts b) :
    scanValue (fuel + 1) (0x5B :: bytes) = (.array (scanItems fuel bytes).1
      (scanItems fuel bytes).2.1, (scanItems fuel bytes).2.2) := by
  have hitems : scanItems fuel (b :: bytes') = scanItems fuel bytes :=
    scanItems_congr fuel (by rw [← h, skipBlanks_skipBlanks])
  rw [scanValue, skipBlanks_of_starts ⟨rfl, by decide⟩]
  simp +decide only [if_false, if_true, h]
  split
  · next heq => cases heq
  · next heq => exact absurd (List.cons.inj heq).1 hb.2
  · rw [hitems]

theorem scanValue_emptyObject (fuel : Nat) {bytes rest : Bytes}
    (h : skipBlanks bytes = 0x7D :: rest) :
    scanValue (fuel + 1) (0x7B :: bytes) = (.object [] none, some rest) := by
  rw [scanValue, skipBlanks_of_starts ⟨rfl, by decide⟩]
  simp +decide only [if_false, if_true, h]

theorem scanValue_object (fuel : Nat) {bytes bytes' : Bytes}
    (h : skipBlanks bytes = 0x22 :: bytes') :
    scanValue (fuel + 1) (0x7B :: bytes) = (.object (scanMembers fuel bytes).1
      (scanMembers fuel bytes).2.1, (scanMembers fuel bytes).2.2) := by
  have hmembers : scanMembers fuel (0x22 :: bytes') = scanMembers fuel bytes :=
    scanMembers_congr fuel (by rw [← h, skipBlanks_skipBlanks])
  rw [scanValue, skipBlanks_of_starts ⟨rfl, by decide⟩]
  simp +decide only [if_false, if_true, h]
  rw [← hmembers]
  rfl

theorem scanItems_last {fuel : Nat} {bytes left rest : Bytes} {item : Document}
    (h : scanValue fuel bytes = (item, some left)) (hleft : skipBlanks left = 0x5D :: rest) :
    scanItems (fuel + 1) bytes = ([item], none, some rest) := by
  rw [scanItems, h]
  simp only [hleft]

theorem scanItems_more {fuel : Nat} {bytes left more : Bytes} {item : Document}
    (h : scanValue fuel bytes = (item, some left)) (hleft : skipBlanks left = 0x2C :: more) :
    scanItems (fuel + 1) bytes =
      (item :: (scanItems fuel more).1, (scanItems fuel more).2.1, (scanItems fuel more).2.2) := by
  rw [scanItems, h]
  simp only [hleft]

theorem scanMembers_last {fuel : Nat} {bytes inside colon behind left rest : Bytes}
    {key : Option String} {value : Document} (hopen : skipBlanks bytes = 0x22 :: inside)
    (hkey : scanString inside = .ok (key, colon)) (hcolon : skipBlanks colon = 0x3A :: behind)
    (hvalue : scanValue fuel behind = (value, some left)) (hleft : skipBlanks left = 0x7D :: rest) :
    scanMembers (fuel + 1) bytes = ([(key, value)], none, some rest) := by
  simp only [scanMembers, hopen, hkey, hcolon, hvalue, hleft]

theorem scanMembers_more {fuel : Nat} {bytes inside colon behind left more : Bytes}
    {key : Option String} {value : Document} (hopen : skipBlanks bytes = 0x22 :: inside)
    (hkey : scanString inside = .ok (key, colon)) (hcolon : skipBlanks colon = 0x3A :: behind)
    (hvalue : scanValue fuel behind = (value, some left)) (hleft : skipBlanks left = 0x2C :: more) :
    scanMembers (fuel + 1) bytes = ((key, value) :: (scanMembers fuel more).1,
      (scanMembers fuel more).2.1, (scanMembers fuel more).2.2) := by
  simp only [scanMembers, hopen, hkey, hcolon, hvalue, hleft]

theorem stops_comma (rest : Bytes) : Stops (0x2C :: rest) := by simp [Stops, isDigit]

theorem stops_bracket (rest : Bytes) : Stops (0x5D :: rest) := by simp [Stops, isDigit]

theorem stops_brace (rest : Bytes) : Stops (0x7D :: rest) := by simp [Stops, isDigit]

/-! ### Texts are read -/

/-- With so many steps, any text that is not longer is read, whatever follows it that does not go on
with a numeral. -/
structure Reads (fuel : Nat) : Prop where
  /-- A value. -/
  value : ∀ {d text}, Text d text → text.length ≤ fuel → ∀ {rest}, Stops rest →
    scanValue fuel (text ++ rest) = (d, some rest)
  /-- The items of an array and its closing bracket. -/
  items : ∀ {items text}, ItemTexts items text → text.length ≤ fuel → ∀ rest,
    scanItems fuel (text ++ rest) = (items, none, some rest)
  /-- The members of an object and its closing brace. -/
  members : ∀ {members text}, MemberTexts members text → text.length ≤ fuel → ∀ rest,
    scanMembers fuel (text ++ rest) = (members, none, some rest)

/-- With blanks around it, a value is read and the blanks behind it are left. -/
theorem Reads.spaced {fuel : Nat} (h : Reads fuel) {d : Document} {text : Bytes}
    (hd : SpacedText d text) (hlen : text.length ≤ fuel) {rest : Bytes} (hrest : Stops rest) :
    ∃ left, scanValue fuel (text ++ rest) = (d, some left) ∧ skipBlanks left = skipBlanks rest := by
  cases hd with
  | @mk _ before text after hbefore htext hafter =>
    rw [List.length_append, List.length_append] at hlen
    refine ⟨after ++ rest, ?_, skipBlanks_append hafter rest⟩
    rw [List.append_assoc, List.append_assoc, scanValue_congr fuel (skipBlanks_append hbefore _)]
    exact h.value htext (by omega) (hrest.append hafter)

theorem reads_zero : Reads 0 where
  value h hlen := by
    obtain ⟨b, rest, rfl, -⟩ := h.exists_cons
    cases hlen
  items h hlen := by cases h <;> simp at hlen
  members h hlen := by cases h <;> simp at hlen

/-- A string is read as a value. -/
theorem scanValue_of_isString (fuel : Nat) {s : Option String} {text : Bytes} (h : IsString s text)
    (rest : Bytes) : scanValue (fuel + 1) (text ++ rest) = (.string s, some rest) := by
  obtain ⟨front, rfl⟩ : ∃ front, text = 0x22 :: front := by
    obtain ⟨_, _, -, -, rfl⟩ := h
    exact ⟨_, rfl⟩
  have hscan : scanString (front ++ rest) = .ok (s, rest) :=
    scanString_eq_ok_iff.2 ⟨front, h, rfl⟩
  rw [List.cons_append, scanValue, skipBlanks_of_starts ⟨rfl, by decide⟩]
  simp +decide only [if_false, if_true, hscan]

/-- A value takes one step more than what is inside of it. -/
theorem Reads.value_succ {fuel : Nat} (h : Reads fuel) {d : Document} {text : Bytes}
    (hd : Text d text) (hlen : text.length ≤ fuel + 1) {rest : Bytes} (hrest : Stops rest) :
    scanValue (fuel + 1) (text ++ rest) = (d, some rest) := by
  cases hd with
  | null => rfl
  | true => rfl
  | false => rfl
  | @number numeral text hsign hnumeral =>
    obtain ⟨b, tail, rfl, hb⟩ := hnumeral.exists_cons
    rw [List.cons_append, scanValue_of_isDigit fuel hb, ← List.cons_append, scanNumber, ← hsign,
      scanNumeral_of_isNumeral hnumeral hrest]
  | @negative numeral text hsign hnumeral =>
    have hminus : scanValue (fuel + 1) (0x2D :: text ++ rest) = scanNumber true (text ++ rest) := rfl
    rw [hminus, scanNumber, ← hsign, scanNumeral_of_isNumeral hnumeral hrest]
  | string hstring => exact scanValue_of_isString fuel hstring rest
  | @emptyArray gap hgap =>
    have hclose : skipBlanks (gap ++ [0x5D] ++ rest) = 0x5D :: rest := by
      rw [List.append_assoc, skipBlanks_append hgap]
      rfl
    exact scanValue_emptyArray fuel hclose
  | array hitems =>
    obtain ⟨b, left, hleft, hstarts⟩ := hitems.exists_cons rest
    refine (scanValue_array fuel hleft hstarts).trans ?_
    rw [h.items hitems (Nat.le_of_succ_le_succ hlen)]
  | @emptyObject gap hgap =>
    have hclose : skipBlanks (gap ++ [0x7D] ++ rest) = 0x7D :: rest := by
      rw [List.append_assoc, skipBlanks_append hgap]
      rfl
    exact scanValue_emptyObject fuel hclose
  | object hmembers =>
    obtain ⟨left, hleft⟩ := hmembers.exists_cons rest
    refine (scanValue_object fuel hleft).trans ?_
    rw [h.members hmembers (Nat.le_of_succ_le_succ hlen)]

/-- So do items, with the sign behind the first one. -/
theorem Reads.items_succ {fuel : Nat} (h : Reads fuel) {items : List Document} {text : Bytes}
    (hitems : ItemTexts items text) (hlen : text.length ≤ fuel + 1) (rest : Bytes) :
    scanItems (fuel + 1) (text ++ rest) = (items, none, some rest) := by
  cases hitems with
  | last hitem =>
    rw [List.length_append, List.length_singleton] at hlen
    obtain ⟨left, hscan, hleft⟩ := h.spaced hitem (by omega) (stops_bracket rest)
    rw [List.append_assoc]
    exact scanItems_last hscan hleft
  | @more item items text more hitem hmore =>
    rw [List.length_append, List.length_cons] at hlen
    obtain ⟨left, hscan, hleft⟩ := h.spaced hitem (by omega) (stops_comma (more ++ rest))
    rw [List.append_assoc]
    exact (scanItems_more hscan hleft).trans (by rw [h.items hmore (by omega)])

/-- And so do members, with the colon and the sign behind the first one. -/
theorem Reads.members_succ {fuel : Nat} (h : Reads fuel)
    {members : List (Option String × Document)} {text : Bytes} (hmembers : MemberTexts members text)
    (hlen : text.length ≤ fuel + 1) (rest : Bytes) :
    scanMembers (fuel + 1) (text ++ rest) = (members, none, some rest) := by
  cases hmembers with
  | @last key value name text hkey hvalue =>
    simp only [List.length_append, List.length_cons, List.length_nil] at hlen
    obtain ⟨inside, colon, hopen, hkey, hcolon⟩ :=
      hkey.exists_key (0x3A :: (text ++ 0x7D :: rest))
    obtain ⟨left, hscan, hleft⟩ := h.spaced hvalue (by omega) (stops_brace rest)
    have htext : name ++ 0x3A :: (text ++ [0x7D]) ++ rest =
        name ++ 0x3A :: (text ++ 0x7D :: rest) := by simp
    rw [htext]
    exact scanMembers_last hopen hkey hcolon hscan hleft
  | @more key value members name text more hkey hvalue hmore =>
    simp only [List.length_append, List.length_cons] at hlen
    obtain ⟨inside, colon, hopen, hkey, hcolon⟩ :=
      hkey.exists_key (0x3A :: (text ++ 0x2C :: (more ++ rest)))
    obtain ⟨left, hscan, hleft⟩ := h.spaced hvalue (by omega) (stops_comma (more ++ rest))
    have htext : name ++ 0x3A :: (text ++ 0x2C :: more) ++ rest =
        name ++ 0x3A :: (text ++ 0x2C :: (more ++ rest)) := by simp
    rw [htext]
    exact (scanMembers_more hopen hkey hcolon hscan hleft).trans
      (by rw [h.members hmore (by omega)])

/-- **Any text of the grammar is read.** -/
theorem reads (fuel : Nat) : Reads fuel := by
  induction fuel with
  | zero => exact reads_zero
  | succ fuel ih =>
    exact ⟨fun hd hlen _ hrest => ih.value_succ hd hlen hrest,
      fun hitems hlen rest => ih.items_succ hitems hlen rest,
      fun hmembers hlen rest => ih.members_succ hmembers hlen rest⟩

/-- **A whole text of a document** is read, and nothing is left behind it. -/
theorem ofBytes_of_spacedText {d : Document} {text : Bytes} (h : SpacedText d text) :
    ofBytes text = (d, none) := by
  have hend : Stops [] := nofun
  obtain ⟨left, hscan, hleft⟩ := (reads (2 * text.length + 2)).spaced h (by omega) hend
  rw [List.append_nil] at hscan
  rw [ofBytes, next, hscan]
  simp only [hleft]
  rfl

end BrokerAdmin.Json.Document
