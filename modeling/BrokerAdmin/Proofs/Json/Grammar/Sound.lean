import BrokerAdmin.Proofs.Json.Codecs
import BrokerAdmin.Proofs.Json.Grammar

/-!
# What is read is a text of the grammar

The reader makes a document of any bytes and puts flaws where they break off. So what it says about a
text of the grammar has a counterpart: where it leaves something behind a document, a text of this
document stands in front of that, and where it leaves nothing, the document has a flaw.

A document without flaws is one that can be skipped. Its text may hold strings that stand for no text
and numerals out of range, which matter only to those who keep them.

## Main definitions

* `Document.Finds`: what the reader finds at the start of a text.

## Main results

* `Document.sound`: what is read is a text of the grammar, or the document has a flaw.
* `Document.ofBytes_eq_iff`: the whole texts that are read without a flaw.
-/

namespace BrokerAdmin.Json.Document

open Result

/-! ### Documents without flaws -/

theorem skip_broken_ne (flaws : Flaws) : (broken flaws).skip ≠ .ok () := by
  rw [skip]
  exact nofun

theorem skip_array_eq_ok_iff {items : List Document} {flaw : Option Flaw} :
    (array items flaw).skip = .ok () ↔ skipItems items = .ok () ∧ flaw = none := by
  rw [skip, andThen_eq_ok_iff, requireNone_eq_ok_iff]

theorem skip_object_eq_ok_iff {members : List (Option String × Document)} {flaws : Option Flaws} :
    (object members flaws).skip = .ok () ↔ skipMembers members = .ok () ∧ flaws = none := by
  rw [skip, andThen_eq_ok_iff, requireNone_eq_ok_iff, Option.map_eq_none_iff]

theorem skipItems_eq_ok_iff {items : List Document} :
    skipItems items = .ok () ↔ ∀ item ∈ items, item.skip = .ok () := by
  induction items with
  | nil => simp [skipItems]
  | cons item items ih => rw [skipItems, andThen_eq_ok_iff, ih, List.forall_mem_cons]

theorem skipMembers_eq_ok_iff {members : List (Option String × Document)} :
    skipMembers members = .ok () ↔ ∀ member ∈ members, member.2.skip = .ok () := by
  induction members with
  | nil => simp [skipMembers]
  | cons member members ih => rw [skipMembers, andThen_eq_ok_iff, ih, List.forall_mem_cons]

mutual

/-- A document that has a text can be skipped. -/
theorem Text.skip_eq {d : Document} {text : Bytes} : Text d text → d.skip = .ok ()
  | .null | .true | .false | .number _ _ | .negative _ _ | .string _ => rfl
  | .emptyArray _ => rfl
  | .emptyObject _ => rfl
  | .array h => skip_array_eq_ok_iff.2 ⟨h.skip_eq, rfl⟩
  | .object h => skip_object_eq_ok_iff.2 ⟨h.skip_eq, rfl⟩

theorem SpacedText.skip_eq {d : Document} {text : Bytes} : SpacedText d text → d.skip = .ok ()
  | .mk _ h _ => h.skip_eq

theorem ItemTexts.skip_eq {items : List Document} {text : Bytes} :
    ItemTexts items text → skipItems items = .ok ()
  | .last h => by rw [skipItems, h.skip_eq, ok_bind, skipItems]
  | .more h hmore => by rw [skipItems, h.skip_eq, ok_bind, hmore.skip_eq]

theorem MemberTexts.skip_eq {members : List (Option String × Document)} {text : Bytes} :
    MemberTexts members text → skipMembers members = .ok ()
  | .last _ h => by rw [skipMembers, h.skip_eq, ok_bind, skipMembers]
  | .more _ h hmore => by rw [skipMembers, h.skip_eq, ok_bind, hmore.skip_eq]

end

/-! ### What is read are texts -/

/-- What the reader finds at the start of a text: the text of a document, or a flaw in it. -/
def Finds (bytes : Bytes) : Scan → Prop
  | (d, some rest) => ∃ text, Text d text ∧ bytes = text ++ rest
  | (d, none) => d.skip ≠ .ok ()

/-- What it finds behind the opening bracket of an array with items. -/
def FindsItems (bytes : Bytes) : List Document × Option Flaw × Option Bytes → Prop
  | (items, flaw, some rest) => flaw = none ∧ ∃ text, ItemTexts items text ∧ bytes = text ++ rest
  | (items, flaw, none) => (array items flaw).skip ≠ .ok ()

/-- What it finds behind the opening brace of an object with members. -/
def FindsMembers (bytes : Bytes) :
    List (Option String × Document) × Option Flaws × Option Bytes → Prop
  | (members, flaws, some rest) =>
    flaws = none ∧ ∃ text, MemberTexts members text ∧ bytes = text ++ rest
  | (members, flaws, none) => (object members flaws).skip ≠ .ok ()

theorem finds_broken (bytes : Bytes) (flaws : Flaws) : Finds bytes (.broken flaws, none) :=
  skip_broken_ne flaws

theorem expectWord_eq_ok_iff {word bytes rest : Bytes} :
    expectWord word bytes = .ok rest ↔ bytes = word ++ rest := by
  induction word generalizing bytes with
  | nil => simp [expectWord]
  | cons w word ih =>
    cases bytes with
    | nil => simp [expectWord]
    | cons b bytes =>
      rw [expectWord, List.cons_append, List.cons.injEq]
      split
      · next heq => simp [ih, heq]
      · next hne => simp [Ne.symm hne]

theorem finds_word {b : UInt8} {word : Bytes} {d : Document} (h : Text d (b :: word))
    (bytes : Bytes) : Finds (b :: bytes) (scanWord word d bytes) := by
  rw [scanWord]
  split
  · next rest hword => exact ⟨_, h, by rw [expectWord_eq_ok_iff.1 hword, List.cons_append]⟩
  · exact finds_broken _ _

theorem finds_number (bytes : Bytes) : Finds bytes (scanNumber false bytes) := by
  rw [scanNumber]
  split
  · next numeral rest hscan =>
    obtain ⟨hsign, front, hnumeral, rfl⟩ := exists_isNumeral_of_scan hscan
    exact ⟨front, .number hsign hnumeral, rfl⟩
  · exact finds_broken _ _

theorem finds_negative (bytes : Bytes) : Finds (0x2D :: bytes) (scanNumber true bytes) := by
  rw [scanNumber]
  split
  · next numeral rest hscan =>
    obtain ⟨hsign, front, hnumeral, rfl⟩ := exists_isNumeral_of_scan hscan
    exact ⟨_, .negative hsign hnumeral, rfl⟩
  · exact finds_broken _ _

/-- With so many steps, what is found is there. -/
structure Sound (fuel : Nat) : Prop where
  /-- A value, behind blanks. -/
  value : ∀ bytes, Finds (skipBlanks bytes) (scanValue fuel bytes)
  /-- The items of an array and its closing bracket. -/
  items : ∀ bytes, FindsItems bytes (scanItems fuel bytes)
  /-- The members of an object and its closing brace. -/
  members : ∀ bytes, FindsMembers bytes (scanMembers fuel bytes)

theorem sound_zero : Sound 0 where
  value bytes := by
    rw [scanValue]
    exact finds_broken _ _
  items bytes := by
    rw [scanItems]
    exact fun h => skip_broken_ne _ (skipItems_eq_ok_iff.1 (skip_array_eq_ok_iff.1 h).1 _
      (List.mem_singleton_self _))
  members bytes := by
    rw [scanMembers]
    exact fun h => Option.some_ne_none _ (skip_object_eq_ok_iff.1 h).2

/-- What is found behind blanks has blanks around it if blanks follow. -/
theorem Finds.spaced {bytes rest : Bytes} {d : Document}
    (h : Finds (skipBlanks bytes) (d, some rest)) :
    ∃ text, SpacedText d text ∧ bytes = text ++ skipBlanks rest := by
  obtain ⟨text, htext, hbytes⟩ := h
  obtain ⟨before, hbefore, heq⟩ := exists_gap bytes
  obtain ⟨after, hafter, heq'⟩ := exists_gap rest
  refine ⟨before ++ (text ++ after), .mk hbefore htext hafter, ?_⟩
  rw [heq, hbytes, List.append_assoc, List.append_assoc, ← heq']

theorem Sound.array {fuel : Nat} (h : Sound fuel) (bytes : Bytes) :
    Finds (0x5B :: bytes) (match skipBlanks bytes with
      | [] => (.array [] (some .cutOff), none)
      | 0x5D :: rest => (.array [] none, some rest)
      | rest =>
        let (items, flaw, out) := scanItems fuel rest
        (.array items flaw, out)) := by
  obtain ⟨gap, hgap, heq⟩ := exists_gap bytes
  split
  · exact fun hskip => Option.some_ne_none _ (skip_array_eq_ok_iff.1 hskip).2
  · next rest hclose =>
    rw [hclose] at heq
    exact ⟨_, .emptyArray hgap, by rw [heq]; simp⟩
  · next hnil hclose =>
    have hitems := h.items bytes
    rw [scanItems_congr fuel (skipBlanks_skipBlanks bytes)]
    rcases hscan : scanItems fuel bytes with ⟨items, flaw, _ | rest⟩
    · rw [hscan] at hitems
      exact hitems
    · rw [hscan] at hitems
      obtain ⟨rfl, text, htext, rfl⟩ := hitems
      exact ⟨_, .array htext, rfl⟩

theorem Sound.object {fuel : Nat} (h : Sound fuel) (bytes : Bytes) :
    Finds (0x7B :: bytes) (match skipBlanks bytes with
      | [] => (.object [] (some (.both .cutOff)), none)
      | 0x7D :: rest => (.object [] none, some rest)
      | rest =>
        let (members, flaws, out) := scanMembers fuel rest
        (.object members flaws, out)) := by
  obtain ⟨gap, hgap, heq⟩ := exists_gap bytes
  split
  · exact fun hskip => Option.some_ne_none _ (skip_object_eq_ok_iff.1 hskip).2
  · next rest hclose =>
    rw [hclose] at heq
    exact ⟨_, .emptyObject hgap, by rw [heq]; simp⟩
  · next hnil hclose =>
    have hmembers := h.members bytes
    rw [scanMembers_congr fuel (skipBlanks_skipBlanks bytes)]
    rcases hscan : scanMembers fuel bytes with ⟨members, flaws, _ | rest⟩
    · rw [hscan] at hmembers
      exact hmembers
    · rw [hscan] at hmembers
      obtain ⟨rfl, text, htext, rfl⟩ := hmembers
      exact ⟨_, .object htext, rfl⟩

theorem finds_string (bytes : Bytes) :
    Finds (0x22 :: bytes) (match scanString bytes with
      | .ok (text, rest) => (.string text, some rest)
      | .error flaws => (.broken flaws, none)) := by
  split
  · next text rest hscan =>
    obtain ⟨front, hfront, rfl⟩ := scanString_eq_ok_iff.1 hscan
    exact ⟨_, .string hfront, rfl⟩
  · exact finds_broken _ _

/-- One step of a value. -/
theorem Sound.value_succ {fuel : Nat} (h : Sound fuel) (bytes : Bytes) :
    Finds (skipBlanks bytes) (scanValue (fuel + 1) bytes) := by
  rw [scanValue]
  cases skipBlanks bytes with
  | nil => exact finds_broken _ _
  | cons b rest =>
    dsimp only
    split_ifs with hnull htrue hfalse hminus hdigit hquote hbracket hbrace
    · subst hnull
      exact finds_word .null rest
    · subst htrue
      exact finds_word .true rest
    · subst hfalse
      exact finds_word .false rest
    · subst hminus
      exact finds_negative rest
    · exact finds_number (b :: rest)
    · subst hquote
      exact finds_string rest
    · subst hbracket
      exact h.array rest
    · subst hbrace
      exact h.object rest
    · exact finds_broken _ _

/-- One step of items: the first one, and the sign behind it. -/
theorem Sound.items_succ {fuel : Nat} (h : Sound fuel) (bytes : Bytes) :
    FindsItems bytes (scanItems (fuel + 1) bytes) := by
  have hvalue := h.value bytes
  rw [scanItems]
  rcases hscan : scanValue fuel bytes with ⟨item, _ | left⟩ <;> rw [hscan] at hvalue
  · exact fun hskip => hvalue (skipItems_eq_ok_iff.1 (skip_array_eq_ok_iff.1 hskip).1 item
      (List.mem_singleton_self item))
  · obtain ⟨text, htext, heq⟩ := hvalue.spaced
    dsimp only
    split
    · exact fun hskip => Option.some_ne_none _ (skip_array_eq_ok_iff.1 hskip).2
    · next rest hleft => exact ⟨rfl, _, .last htext, by rw [heq, hleft]; simp⟩
    · next more hleft =>
      have hmore := h.items more
      rcases hitems : scanItems fuel more with ⟨items, flaw, _ | rest⟩ <;> rw [hitems] at hmore
      · intro hskip
        obtain ⟨hitems, hflaw⟩ := skip_array_eq_ok_iff.1 hskip
        rw [skipItems_eq_ok_iff, List.forall_mem_cons] at hitems
        exact hmore (skip_array_eq_ok_iff.2 ⟨skipItems_eq_ok_iff.2 hitems.2, hflaw⟩)
      · obtain ⟨rfl, others, hothers, rfl⟩ := hmore
        exact ⟨rfl, _, .more htext hothers, by rw [heq, hleft]; simp⟩
    · exact fun hskip => Option.some_ne_none _ (skip_array_eq_ok_iff.1 hskip).2

/-- One step of members: the key, the colon and the value of the first one, and the sign behind it. -/
theorem Sound.members_succ {fuel : Nat} (h : Sound fuel) (bytes : Bytes) :
    FindsMembers bytes (scanMembers (fuel + 1) bytes) := by
  have hflawed : ∀ {bytes members flaws}, FindsMembers bytes (members, some flaws, none) :=
    fun hskip => Option.some_ne_none _ (skip_object_eq_ok_iff.1 hskip).2
  have hbroken : ∀ {bytes key d}, d.skip ≠ .ok () → FindsMembers bytes ([(key, d)], none, none) := by
    intro bytes key d hd hskip
    exact hd (skipMembers_eq_ok_iff.1 (skip_object_eq_ok_iff.1 hskip).1 (key, d)
      (List.mem_singleton_self _))
  rw [scanMembers]
  obtain ⟨before, hbefore, heq⟩ := exists_gap bytes
  split
  · exact hflawed
  · next inside hopen =>
    split
    · exact hflawed
    · next key colon hkey =>
      obtain ⟨front, hfront, rfl⟩ := scanString_eq_ok_iff.1 hkey
      obtain ⟨after, hafter, hcolon⟩ := exists_gap colon
      have hname : SpacedText (.string key) (before ++ (0x22 :: front ++ after)) :=
        .mk hbefore (.string hfront) hafter
      split
      · exact hbroken (skip_broken_ne _)
      · next behind hbehind =>
        have hvalue := h.value behind
        rcases hscan : scanValue fuel behind with ⟨value, _ | left⟩ <;> rw [hscan] at hvalue
        · exact hbroken hvalue
        · obtain ⟨text, htext, hbytes⟩ := hvalue.spaced
          have hfront : bytes = before ++ (0x22 :: front ++ after) ++
              0x3A :: (text ++ skipBlanks left) := by
            rw [heq, hopen, hcolon, hbehind, hbytes]
            simp
          dsimp only
          split
          · exact hflawed
          · next rest hleft => exact ⟨rfl, _, .last hname htext, by rw [hfront, hleft]; simp⟩
          · next more hleft =>
            have hmore := h.members more
            rcases hmembers : scanMembers fuel more with ⟨members, flaws, _ | rest⟩ <;>
              rw [hmembers] at hmore
            · intro hskip
              obtain ⟨hmembers, hflaws⟩ := skip_object_eq_ok_iff.1 hskip
              rw [skipMembers_eq_ok_iff, List.forall_mem_cons] at hmembers
              exact hmore (skip_object_eq_ok_iff.2 ⟨skipMembers_eq_ok_iff.2 hmembers.2, hflaws⟩)
            · obtain ⟨rfl, others, hothers, rfl⟩ := hmore
              exact ⟨rfl, _, .more hname htext hothers, by rw [hfront, hleft]; simp⟩
          · exact hflawed
      · exact hbroken (skip_broken_ne _)
  · exact hflawed

/-- **What is read is a text of the grammar**, or the document has a flaw. -/
theorem sound (fuel : Nat) : Sound fuel := by
  induction fuel with
  | zero => exact sound_zero
  | succ fuel ih => exact ⟨ih.value_succ, ih.items_succ, ih.members_succ⟩

/-! ### Whole texts -/

/-- **The whole texts that are read without a flaw** are those of the grammar. -/
theorem ofBytes_eq_iff {bytes : Bytes} {d : Document} :
    ofBytes bytes = (d, none) ∧ d.skip = .ok () ↔ SpacedText d bytes := by
  constructor
  · rintro ⟨h, hskip⟩
    have hfinds := (sound (2 * bytes.length + 2)).value bytes
    rw [ofBytes, next] at h
    rcases hscan : scanValue (2 * bytes.length + 2) bytes with ⟨d', _ | rest⟩ <;>
      rw [hscan] at h hfinds
    · obtain ⟨rfl, -⟩ := Prod.mk.inj h
      exact absurd hskip hfinds
    · obtain ⟨rfl, hrest⟩ := Prod.mk.inj h
      have hnil : skipBlanks rest = [] := by
        by_contra hne
        rw [if_neg (by simpa using hne)] at hrest
        cases hrest
      obtain ⟨text, htext, heq⟩ := hfinds.spaced
      rwa [heq, hnil, List.append_nil]
  · exact fun h => ⟨ofBytes_of_spacedText h, h.skip_eq⟩

end BrokerAdmin.Json.Document
