import BrokerAdmin.Proofs.Json.Grammar
import BrokerAdmin.Proofs.Json.Print

/-!
# JSON texts with blanks

The text of a value is made of tokens, and blanks may stand in front of each of them and behind. A
value printed without blanks and one laid out over lines are two texts of the same value. Both are
texts of the grammar for the document that says what the value is, so what is read does not depend on
the layout.

## Main definitions

* `AreBlank`: nothing but blanks.
* `Value.Written`, `Value.Spaced`: the texts of a value, and the same with blanks around them.

## Main results

* `Value.written_compactChars`, `Value.written_prettyChars`: the two printed texts of a value.
* `Document.text_of_written`: any text of a value is a text of what the value is.
* `Document.ofBytes_of_spaced`: a whole text of a value says what the value is.
-/

namespace BrokerAdmin.Json

open Utf8

/-! ### Texts of values -/

/-- Nothing but the blanks of JSON. -/
def AreBlank (cs : List Char) : Prop := ∀ c ∈ cs, c = ' ' ∨ c = '\n' ∨ c = '\r' ∨ c = '\t'

theorem areBlank_nil : AreBlank [] := nofun

theorem areBlank_newLine (depth : Nat) : AreBlank (Value.newLine depth) := by
  intro c hc
  rcases List.mem_cons.1 hc with rfl | hspace
  · exact .inr (.inl rfl)
  · exact .inl (List.eq_of_mem_replicate hspace)

namespace Value

mutual

/-- The texts of a value. Numbers and strings stand as they are printed; inside of arrays and objects
there may be blanks. -/
inductive Written : Value → List Char → Prop
  /-- The value `null`. -/
  | null : Written .null ['n', 'u', 'l', 'l']
  /-- The value `true`. -/
  | true : Written (.bool true) ['t', 'r', 'u', 'e']
  /-- The value `false`. -/
  | false : Written (.bool false) ['f', 'a', 'l', 's', 'e']
  /-- An integer. -/
  | int {n : Int} : Written (.int n) (intChars n)
  /-- A string. -/
  | string {s : String} : Written (.string s) (quote s)
  /-- An array without items. -/
  | emptyArray {gap : List Char} : AreBlank gap → Written (.array []) ('[' :: (gap ++ [']']))
  /-- An array with items. -/
  | array {items : List Value} {text : List Char} : WrittenItems items text →
      Written (.array items) ('[' :: text)
  /-- An object without members. -/
  | emptyObject {gap : List Char} : AreBlank gap →
      Written (.object []) ('\x7b' :: (gap ++ ['\x7d']))
  /-- An object with members. -/
  | object {members : List (String × Value)} {text : List Char} : WrittenMembers members text →
      Written (.object members) ('\x7b' :: text)

/-- The texts of a value with blanks around them. -/
inductive Spaced : Value → List Char → Prop
  /-- Blanks, the text, and blanks again. -/
  | mk {v : Value} {before text after : List Char} : AreBlank before → Written v text →
      AreBlank after → Spaced v (before ++ (text ++ after))

/-- The texts of one or more items of an array and the closing bracket. -/
inductive WrittenItems : List Value → List Char → Prop
  /-- The last item. -/
  | last {item : Value} {text : List Char} : Spaced item text → WrittenItems [item] (text ++ [']'])
  /-- An item that is followed by others. -/
  | more {item : Value} {items : List Value} {text rest : List Char} : Spaced item text →
      WrittenItems items rest → WrittenItems (item :: items) (text ++ ',' :: rest)

/-- The texts of one or more members of an object and the closing brace. A key is written like the
value that is the same string. -/
inductive WrittenMembers : List (String × Value) → List Char → Prop
  /-- The last member. -/
  | last {key : String} {value : Value} {name text : List Char} : Spaced (.string key) name →
      Spaced value text → WrittenMembers [(key, value)] (name ++ ':' :: (text ++ ['\x7d']))
  /-- A member that is followed by others. -/
  | more {key : String} {value : Value} {members : List (String × Value)}
      {name text rest : List Char} : Spaced (.string key) name → Spaced value text →
      WrittenMembers members rest →
      WrittenMembers ((key, value) :: members) (name ++ ':' :: (text ++ ',' :: rest))

end

/-- A text without blanks around it. -/
theorem Written.spaced {v : Value} {text : List Char} (h : Written v text) : Spaced v text := by
  have hspaced := Spaced.mk areBlank_nil h areBlank_nil
  rwa [List.nil_append, List.append_nil] at hspaced

/-- A text on a line of its own. -/
theorem Written.spaced_newLine {v : Value} {text : List Char} (h : Written v text) (depth : Nat) :
    Spaced v (newLine depth ++ text) := by
  have hspaced := Spaced.mk (areBlank_newLine depth) h areBlank_nil
  rwa [List.append_nil] at hspaced

/-- A text behind one blank. -/
theorem Written.spaced_blank {v : Value} {text : List Char} (h : Written v text) :
    Spaced v (' ' :: text) := by
  have hspaced := Spaced.mk (fun c hc => .inl (List.mem_singleton.1 hc)) h areBlank_nil
  rwa [List.append_nil] at hspaced

/-- Blanks behind a text. -/
theorem Spaced.append {v : Value} {text after : List Char} (h : Spaced v text)
    (hafter : AreBlank after) : Spaced v (text ++ after) := by
  cases h with
  | @mk _ before text behind hbefore htext hbehind =>
    rw [List.append_assoc, List.append_assoc]
    exact .mk hbefore htext (List.forall_mem_append.2 ⟨hbehind, hafter⟩)

/-! ### Printed texts -/

mutual

/-- **The text without blanks** is a text of the value. -/
theorem written_compactChars : ∀ {v : Value}, v.IsExact → Written v v.compactChars
  | .null, _ => .null
  | .bool true, _ => .true
  | .bool false, _ => .false
  | .int _, _ => .int
  | .string _, _ => .string
  | .array [], _ => .emptyArray areBlank_nil
  | .array (item :: items), hv => .array (writtenItems_compactItems (List.cons_ne_nil item items) hv)
  | .object [], _ => .emptyObject areBlank_nil
  | .object (member :: members), hv =>
    .object (writtenMembers_compactMembers (List.cons_ne_nil member members) hv)

theorem writtenItems_compactItems : ∀ {items : List Value}, items ≠ [] → AreExact items →
    WrittenItems items (compactItems items)
  | [_], _, hv => .last (written_compactChars hv.1).spaced
  | _ :: next :: items, _, hv => .more (written_compactChars hv.1).spaced
    (writtenItems_compactItems (List.cons_ne_nil next items) hv.2)

theorem writtenMembers_compactMembers : ∀ {members : List (String × Value)}, members ≠ [] →
    HaveExact members → WrittenMembers members (compactMembers members)
  | [(key, value)], _, hv => by
    rw [compactMembers, List.append_assoc, List.cons_append]
    exact .last Written.string.spaced (written_compactChars hv.1).spaced
  | (key, value) :: next :: members, _, hv => by
    have hmore := writtenMembers_compactMembers (List.cons_ne_nil next members) hv.2
    simpa [compactMembers] using
      WrittenMembers.more Written.string.spaced (written_compactChars hv.1).spaced hmore

end

mutual

/-- **The text over lines** is a text of the value. -/
theorem written_prettyChars : ∀ {v : Value}, v.IsExact → ∀ depth, Written v (v.prettyChars depth)
  | .null, _, _ => .null
  | .bool true, _, _ => .true
  | .bool false, _, _ => .false
  | .int _, _, _ => .int
  | .string _, _, _ => .string
  | .array [], _, _ => .emptyArray areBlank_nil
  | .array (item :: items), hv, depth => by
    have hitems := writtenItems_prettyItems (List.cons_ne_nil item items) hv (depth + 1)
      (areBlank_newLine depth)
    simpa [prettyChars] using Written.array hitems
  | .object [], _, _ => .emptyObject areBlank_nil
  | .object (member :: members), hv, depth => by
    have hmembers := writtenMembers_prettyMembers (List.cons_ne_nil member members) hv (depth + 1)
      (areBlank_newLine depth)
    simpa [prettyChars] using Written.object hmembers

theorem writtenItems_prettyItems : ∀ {items : List Value}, items ≠ [] → AreExact items → ∀ depth
    {after : List Char}, AreBlank after →
      WrittenItems items (prettyItems depth items ++ (after ++ [']']))
  | [item], _, hv, depth, after, hafter => by
    rw [prettyItems, ← List.append_assoc]
    exact .last (((written_prettyChars hv.1 depth).spaced_newLine depth).append hafter)
  | item :: next :: items, _, hv, depth, after, hafter => by
    have hitem := (written_prettyChars hv.1 depth).spaced_newLine depth
    have hmore := writtenItems_prettyItems (List.cons_ne_nil next items) hv.2 depth hafter
    simpa [prettyItems] using WrittenItems.more hitem hmore

theorem writtenMembers_prettyMembers : ∀ {members : List (String × Value)}, members ≠ [] →
    HaveExact members → ∀ depth {after : List Char}, AreBlank after →
      WrittenMembers members (prettyMembers depth members ++ (after ++ ['\x7d']))
  | [(key, value)], _, hv, depth, after, hafter => by
    have hkey := (Written.string (s := key)).spaced_newLine depth
    have hvalue := ((written_prettyChars hv.1 depth).spaced_blank).append hafter
    simpa [prettyMembers] using WrittenMembers.last hkey hvalue
  | (key, value) :: next :: members, _, hv, depth, after, hafter => by
    have hkey := (Written.string (s := key)).spaced_newLine depth
    have hvalue := (written_prettyChars hv.1 depth).spaced_blank
    have hmore := writtenMembers_prettyMembers (List.cons_ne_nil next members) hv.2 depth hafter
    simpa [prettyMembers] using WrittenMembers.more hkey hvalue hmore

end

end Value

namespace Document

open Value

/-! ### What the texts say -/

theorem isGap_of_areBlank {cs : List Char} (h : AreBlank cs) : IsGap (encodeChars cs) := by
  intro b hb
  obtain ⟨c, hc, hb⟩ := List.mem_flatMap.1 hb
  rcases h c hc with rfl | rfl | rfl | rfl <;> obtain rfl := List.mem_singleton.1 hb <;> decide

/-- A decimal digit has a value below ten and is one byte. -/
theorem digitValue_of_isDigit {c : Char} (h : c.isDigit) :
    digitValue c < 10 ∧ encodeChar c = [UInt8.ofNat (48 + digitValue c)] := by
  rw [Char.isDigit_iff_toNat] at h
  have hlow : 48 ≤ c.toNat := h.1
  have hhigh : c.toNat ≤ 57 := h.2
  have hvalue : 48 + digitValue c = c.toNat := by
    rw [digitValue]
    omega
  rw [hvalue]
  exact ⟨by omega, encodeChar_of_ascii (by omega)⟩

theorem areDigits_of_isDigit {cs : List Char} (h : ∀ c ∈ cs, c.isDigit) :
    AreDigits (cs.map digitValue) (encodeChars cs) := by
  induction cs with
  | nil => exact ⟨nofun, rfl⟩
  | cons c cs ih =>
    obtain ⟨hc, hcs⟩ := List.forall_mem_cons.1 h
    obtain ⟨hsmall, hbyte⟩ := digitValue_of_isDigit hc
    obtain ⟨hdigits, hbytes⟩ := ih hcs
    refine ⟨List.forall_mem_cons.2 ⟨hsmall, hdigits⟩, ?_⟩
    rw [encodeChars_cons, hbyte, hbytes]
    rfl

/-- The digits of a number have no zero in front of others. -/
theorem digits_eq_zero_of_head {n : Nat}
    (h : ((Nat.toDigits 10 n).map digitValue).head? = some 0) :
    (Nat.toDigits 10 n).map digitValue = [0] := by
  cases hdigits : Nat.toDigits 10 n with
  | nil => exact absurd hdigits Nat.toDigits_ne_nil
  | cons c cs =>
    have hc : c.isDigit := isDigit_of_mem_toDigits (by rw [hdigits]; exact List.mem_cons_self)
    rw [Char.isDigit_iff_toNat] at hc
    have hlow : 48 ≤ c.toNat := hc.1
    rw [hdigits] at h
    have hzero : digitValue c = 0 := Option.some.inj h
    have hchar : c = '0' := Char.toNat_inj.1 (Nat.le_antisymm (Nat.sub_eq_zero_iff_le.1 hzero) hlow)
    have hn : n = 0 := eq_zero_of_head_toDigits (by rw [hdigits, hchar]; rfl)
    rw [hn, Nat.toDigits_zero] at hdigits
    rw [← hdigits]
    rfl

/-- The digits of a number are a numeral. -/
theorem isNumeral_toDigits (negative : Bool) (n : Nat) :
    IsNumeral ⟨negative, (Nat.toDigits 10 n).map digitValue, none, none⟩
      (encodeChars (Nat.toDigits 10 n)) := by
  have hne : (Nat.toDigits 10 n).map digitValue ≠ [] := by simp [Nat.toDigits_ne_nil]
  have hdigits := areDigits_of_isDigit fun c hc => isDigit_of_mem_toDigits (n := n) hc
  have hnumeral := @IsNumeral.mk negative _ _ _ _ _ _ hne hdigits digits_eq_zero_of_head
    .none .none
  rwa [List.append_nil, List.append_nil] at hnumeral

theorem text_intChars (n : Int) : Text (.number (.ofInt n)) (encodeChars (intChars n)) := by
  rw [intChars, Numeral.ofInt]
  split
  · next hneg => exact .negative (by simpa using hneg) (isNumeral_toDigits _ _)
  · next hpos => exact .number (by simpa using hpos) (isNumeral_toDigits _ _)

/-- A quoted string, with what follows it. -/
theorem encodeChars_quote (s : String) (rest : Bytes) : encodeChars (quote s) ++ rest =
    0x22 :: (encodeChars (s.toList.flatMap escapeChar) ++ 0x22 :: rest) := by
  rw [quote, List.cons_append, encodeChars_cons, encodeChars_append]
  simp [encodeChar, encodeChars]

theorem text_quote (s : String) : Text (.string (some s)) (encodeChars (quote s)) := by
  have hquote := encodeChars_quote s []
  obtain ⟨front, hfront, heq⟩ := scanString_eq_ok_iff.1 (scanString_escaped s [])
  rw [List.append_nil] at hquote heq
  rw [hquote, heq]
  exact .string hfront

mutual

/-- **Any text of a value** is a text of what the value is, whatever the layout. -/
theorem text_of_written : ∀ {v : Value} {text : List Char}, Written v text →
    Text (ofValue v) (encodeChars text)
  | _, _, .null => .null
  | _, _, .true => .true
  | _, _, .false => .false
  | _, _, .int => text_intChars _
  | _, _, .string => text_quote _
  | _, _, .emptyArray hgap => by
    rw [encodeChars_cons, encodeChars_append]
    exact .emptyArray (isGap_of_areBlank hgap)
  | _, _, .array h => .array (itemTexts_of_written h)
  | _, _, .emptyObject hgap => by
    rw [encodeChars_cons, encodeChars_append]
    exact .emptyObject (isGap_of_areBlank hgap)
  | _, _, .object h => .object (memberTexts_of_written h)

theorem spacedText_of_spaced : ∀ {v : Value} {text : List Char}, Spaced v text →
    SpacedText (ofValue v) (encodeChars text)
  | _, _, .mk hbefore h hafter => by
    rw [encodeChars_append, encodeChars_append]
    exact .mk (isGap_of_areBlank hbefore) (text_of_written h) (isGap_of_areBlank hafter)

theorem itemTexts_of_written : ∀ {items : List Value} {text : List Char}, WrittenItems items text →
    ItemTexts (ofItems items) (encodeChars text)
  | _, _, .last h => by
    rw [encodeChars_append]
    exact .last (spacedText_of_spaced h)
  | _, _, .more h hmore => by
    rw [encodeChars_append, encodeChars_cons]
    exact .more (spacedText_of_spaced h) (itemTexts_of_written hmore)

theorem memberTexts_of_written : ∀ {members : List (String × Value)} {text : List Char},
    WrittenMembers members text → MemberTexts (ofMembers members) (encodeChars text)
  | _, _, .last hkey h => by
    rw [encodeChars_append, encodeChars_cons, encodeChars_append]
    exact .last (spacedText_of_spaced hkey) (spacedText_of_spaced h)
  | _, _, .more hkey h hmore => by
    rw [encodeChars_append, encodeChars_cons, encodeChars_append, encodeChars_cons]
    exact .more (spacedText_of_spaced hkey) (spacedText_of_spaced h)
      (memberTexts_of_written hmore)

end

/-- **A whole text of a value** says what the value is, and nothing is left behind it. -/
theorem ofBytes_of_spaced {v : Value} {text : List Char} (h : Spaced v text) :
    ofBytes (encodeChars text) = (ofValue v, none) :=
  ofBytes_of_spacedText (spacedText_of_spaced h)

/-- The text without blanks says what the value is. -/
theorem ofBytes_compact {v : Value} (h : v.IsExact) :
    ofBytes (encode v.compact) = (ofValue v, none) := by
  rw [encode, Value.compact, String.toList_ofList]
  exact ofBytes_of_spaced (written_compactChars h).spaced

/-- The text over lines says what the value is, also with a line end behind it. -/
theorem ofBytes_pretty {v : Value} (h : v.IsExact) {after : String} (hafter : AreBlank after.toList) :
    ofBytes (encode (v.pretty ++ after)) = (ofValue v, none) := by
  rw [encode, String.toList_append, Value.pretty, String.toList_ofList]
  exact ofBytes_of_spaced ((written_prettyChars h 0).spaced.append hafter)

end Document

end BrokerAdmin.Json
