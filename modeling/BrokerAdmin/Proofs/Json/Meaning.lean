import BrokerAdmin.Proofs.Dict
import BrokerAdmin.Proofs.Json.Layout
import BrokerAdmin.Proofs.Json.Record
import Mathlib.Data.List.Perm.Basic

/-!
# What a JSON text says

A document says a value: item by item in an array, and member by member in an object, where the
members may stand in any order. What it says is fixed here without a reader, and it is all that a
reader may go by, so whatever is read from one text of a value is read from every other.

Only definite values are said by their texts. A floating-point number is not among them, since what
is read from a numeral may lie beside the number that it was printed for. What a text loses is the
order of members, so what is found in it is the value with its members sorted. A regular value has
them sorted already, and of such a value nothing is lost.

## Main definitions

* `Value.Definite`: the values of which a text loses the order of members and nothing else.
* `Value.Regular`: the values of which a text loses nothing.
* `Value.depth`: how deep arrays and objects are nested.
* `Document.Says`: what a document says.
* `Value.HasText`: the texts that say a value, and no more.

## Main results

* `Value.Definite.hasText_compact`, `Value.Definite.hasText_pretty`: the printed texts say the value.
* `Document.Says.sorted`: what is said is also said in the order of the keys.
* `Document.Says.toValue_eq`: the reader of free-form values finds what a document says.
* `Value.HasText.unique`: a text says one regular value at most.
-/

namespace BrokerAdmin.Json

open Result

namespace Value

/-! ### Regular values -/

mutual

/-- A value of which a text loses nothing: its numbers are integers of 64 bits, with or without sign,
and the members of its objects are sorted by key, each key once. -/
def Regular : Value → Prop
  | .null | .bool _ | .string _ => True
  | .int n => -0x8000000000000000 ≤ n ∧ n ≤ 0xFFFFFFFFFFFFFFFF
  | .float _ => False
  | .array items => AreRegular items
  | .object members => members.Pairwise (fun a b => a.1 < b.1) ∧ HaveRegular members

/-- All of these values are regular. -/
def AreRegular : List Value → Prop
  | [] => True
  | item :: rest => item.Regular ∧ AreRegular rest

/-- The values of all these members are regular. -/
def HaveRegular : List (String × Value) → Prop
  | [] => True
  | (_, value) :: rest => value.Regular ∧ HaveRegular rest

end

theorem areRegular_iff {items : List Value} : AreRegular items ↔ ∀ item ∈ items, item.Regular := by
  induction items with
  | nil => simp [AreRegular]
  | cons item items ih => rw [AreRegular, ih, List.forall_mem_cons]

theorem haveRegular_iff {members : List (String × Value)} :
    HaveRegular members ↔ ∀ member ∈ members, member.2.Regular := by
  induction members with
  | nil => simp [HaveRegular]
  | cons member members ih => rw [HaveRegular, ih, List.forall_mem_cons]

/-! ### Definite values -/

mutual

/-- A value of which a text loses the order of members and nothing else: its numbers are integers of 64
bits, with or without sign, and the keys of each object differ. -/
def Definite : Value → Prop
  | .null | .bool _ | .string _ => True
  | .int n => -0x8000000000000000 ≤ n ∧ n ≤ 0xFFFFFFFFFFFFFFFF
  | .float _ => False
  | .array items => AreDefinite items
  | .object members => (members.map Prod.fst).Nodup ∧ HaveDefinite members

/-- All of these values are definite. -/
def AreDefinite : List Value → Prop
  | [] => True
  | item :: rest => item.Definite ∧ AreDefinite rest

/-- The values of all these members are definite. -/
def HaveDefinite : List (String × Value) → Prop
  | [] => True
  | (_, value) :: rest => value.Definite ∧ HaveDefinite rest

end

theorem areDefinite_iff {items : List Value} :
    AreDefinite items ↔ ∀ item ∈ items, item.Definite := by
  induction items with
  | nil => simp [AreDefinite]
  | cons item items ih => rw [AreDefinite, ih, List.forall_mem_cons]

theorem haveDefinite_iff {members : List (String × Value)} :
    HaveDefinite members ↔ ∀ member ∈ members, member.2.Definite := by
  induction members with
  | nil => simp [HaveDefinite]
  | cons member members ih => rw [HaveDefinite, ih, List.forall_mem_cons]

mutual

theorem Definite.isExact : ∀ {v : Value}, v.Definite → v.IsExact
  | .null, _ | .bool _, _ | .int _, _ | .string _, _ => trivial
  | .array _, hv => AreDefinite.areExact hv
  | .object _, hv => HaveDefinite.haveExact hv.2

theorem AreDefinite.areExact : ∀ {items : List Value}, AreDefinite items → AreExact items
  | [], _ => trivial
  | _ :: _, hv => ⟨hv.1.isExact, AreDefinite.areExact hv.2⟩

theorem HaveDefinite.haveExact : ∀ {members : List (String × Value)},
    HaveDefinite members → HaveExact members
  | [], _ => trivial
  | _ :: _, hv => ⟨hv.1.isExact, HaveDefinite.haveExact hv.2⟩

end

mutual

/-- Keys that are sorted differ. -/
theorem Regular.definite : ∀ {v : Value}, v.Regular → v.Definite
  | .null, _ | .bool _, _ | .string _, _ => trivial
  | .int _, hv => hv
  | .array _, hv => AreRegular.areDefinite hv
  | .object _, hv =>
    ⟨List.pairwise_map.2 (hv.1.imp String.ne_of_lt), HaveRegular.haveDefinite hv.2⟩

theorem AreRegular.areDefinite : ∀ {items : List Value}, AreRegular items → AreDefinite items
  | [], _ => trivial
  | _ :: _, hv => ⟨hv.1.definite, AreRegular.areDefinite hv.2⟩

theorem HaveRegular.haveDefinite : ∀ {members : List (String × Value)},
    HaveRegular members → HaveDefinite members
  | [], _ => trivial
  | _ :: _, hv => ⟨hv.1.definite, HaveRegular.haveDefinite hv.2⟩

end

/-! ### Sorted values -/

theorem sortedItems_eq_map (items : List Value) : sortedItems items = items.map sorted := by
  induction items with
  | nil => rfl
  | cons item items ih => rw [sortedItems, ih, List.map_cons]

theorem sortedMembers_eq_map (members : List (String × Value)) :
    sortedMembers members = members.map fun member => (member.1, member.2.sorted) := by
  induction members with
  | nil => rfl
  | cons member members ih => rw [sortedMembers, ih, List.map_cons]

theorem sorted_eq_null_iff {v : Value} : v.sorted = .null ↔ v = .null := by
  cases v <;> simp [sorted, ofMembers]

theorem map_fst_sortedMembers (members : List (String × Value)) :
    (sortedMembers members).map Prod.fst = members.map Prod.fst := by
  rw [sortedMembers_eq_map, List.map_map]
  rfl

mutual

/-- A regular value is sorted already. -/
theorem Regular.sorted_eq : ∀ {v : Value}, v.Regular → v.sorted = v
  | .null, _ | .bool _, _ | .int _, _ | .string _, _ => by rw [sorted]
  | .array items, hv => by rw [sorted, AreRegular.sortedItems_eq hv]
  | .object members, hv => by
    rw [sorted, HaveRegular.sortedMembers_eq hv.2, ofMembers,
      Dict.toList_ofList_of_perm (.refl _) hv.1]

theorem AreRegular.sortedItems_eq : ∀ {items : List Value}, AreRegular items →
    sortedItems items = items
  | [], _ => by rw [sortedItems]
  | _ :: _, hv => by rw [sortedItems, hv.1.sorted_eq, AreRegular.sortedItems_eq hv.2]

theorem HaveRegular.sortedMembers_eq : ∀ {members : List (String × Value)}, HaveRegular members →
    sortedMembers members = members
  | [], _ => by rw [sortedMembers]
  | _ :: _, hv => by rw [sortedMembers, hv.1.sorted_eq, HaveRegular.sortedMembers_eq hv.2]

end

/-- An object made from members in any order is regular if their values are. -/
theorem regular_ofMembers {members : List (String × Value)}
    (h : ∀ member ∈ members, member.2.Regular) (hnames : (members.map Prod.fst).Nodup) :
    (ofMembers members).Regular :=
  ⟨(Dict.ofList members).sorted, haveRegular_iff.2 fun member hmem =>
    h member ((Dict.toList_ofList_perm hnames).mem_iff.1 hmem)⟩

mutual

/-- **A definite value is regular** once it is sorted. -/
theorem Definite.regular_sorted : ∀ {v : Value}, v.Definite → v.sorted.Regular
  | .null, _ | .bool _, _ | .string _, _ => by rw [sorted]; trivial
  | .int _, hv => by rw [sorted]; exact hv
  | .array items, hv => by
    rw [sorted]
    exact areRegular_iff.2 (AreDefinite.regular_sortedItems hv)
  | .object members, hv => by
    rw [sorted]
    exact regular_ofMembers (HaveDefinite.regular_sortedMembers hv.2)
      (map_fst_sortedMembers members ▸ hv.1)

theorem AreDefinite.regular_sortedItems : ∀ {items : List Value}, AreDefinite items →
    ∀ item ∈ sortedItems items, item.Regular
  | [], _ => by rw [sortedItems]; exact nofun
  | _ :: _, hv => by
    rw [sortedItems]
    exact List.forall_mem_cons.2 ⟨hv.1.regular_sorted, AreDefinite.regular_sortedItems hv.2⟩

theorem HaveDefinite.regular_sortedMembers : ∀ {members : List (String × Value)},
    HaveDefinite members → ∀ member ∈ sortedMembers members, member.2.Regular
  | [], _ => by rw [sortedMembers]; exact nofun
  | _ :: _, hv => by
    rw [sortedMembers]
    exact List.forall_mem_cons.2 ⟨hv.1.regular_sorted, HaveDefinite.regular_sortedMembers hv.2⟩

end

theorem get?_ofMembers (members : List (String × Value)) (key : String) :
    (ofMembers members).get? key = members.reverse.lookup key :=
  Dict.get?_ofList members key

/-! ### Depth -/

mutual

/-- How deep arrays and objects are nested in a value. -/
def depth : Value → Nat
  | .null | .bool _ | .int _ | .float _ | .string _ => 0
  | .array items => depthOfItems items + 1
  | .object members => depthOfMembers members + 1

/-- How deep they are nested in one of these values. -/
def depthOfItems : List Value → Nat
  | [] => 0
  | item :: rest => max item.depth (depthOfItems rest)

/-- How deep they are nested in the value of one of these members. -/
def depthOfMembers : List (String × Value) → Nat
  | [] => 0
  | (_, value) :: rest => max value.depth (depthOfMembers rest)

end

theorem depthOfItems_le_iff {items : List Value} {n : Nat} :
    depthOfItems items ≤ n ↔ ∀ item ∈ items, item.depth ≤ n := by
  induction items with
  | nil => simp [depthOfItems]
  | cons item items ih => rw [depthOfItems, Nat.max_le, ih, List.forall_mem_cons]

theorem depthOfMembers_le_iff {members : List (String × Value)} {n : Nat} :
    depthOfMembers members ≤ n ↔ ∀ member ∈ members, member.2.depth ≤ n := by
  induction members with
  | nil => simp [depthOfMembers]
  | cons member members ih => rw [depthOfMembers, Nat.max_le, ih, List.forall_mem_cons]

/-- An object made from members in any order is one level deeper than these. -/
theorem depth_ofMembers_le {members : List (String × Value)} {n : Nat}
    (h : ∀ member ∈ members, member.2.depth ≤ n) (hnames : (members.map Prod.fst).Nodup) :
    (ofMembers members).depth ≤ n + 1 := by
  refine Nat.succ_le_succ (depthOfMembers_le_iff.2 fun member hmem => ?_)
  exact h member ((Dict.toList_ofList_perm hnames).mem_iff.1 hmem)

/-- An array or an object needs one level for itself. -/
theorem exists_room_of_array {items : List Value} {room : Nat} (h : (array items).depth ≤ room) :
    ∃ inner, room = inner + 1 ∧ ∀ item ∈ items, item.depth ≤ inner := by
  cases room with
  | zero => exact absurd h (Nat.not_succ_le_zero _)
  | succ inner => exact ⟨inner, rfl, depthOfItems_le_iff.1 (Nat.le_of_succ_le_succ h)⟩

theorem exists_room_of_object {members : List (String × Value)} {room : Nat}
    (h : (object members).depth ≤ room) :
    ∃ inner, room = inner + 1 ∧ ∀ member ∈ members, member.2.depth ≤ inner := by
  cases room with
  | zero => exact absurd h (Nat.not_succ_le_zero _)
  | succ inner => exact ⟨inner, rfl, depthOfMembers_le_iff.1 (Nat.le_of_succ_le_succ h)⟩

mutual

/-- Sorting adds no level. -/
theorem Definite.depth_sorted_le : ∀ {v : Value}, v.Definite → ∀ {n}, v.depth ≤ n →
    v.sorted.depth ≤ n
  | .null, _, _, h | .bool _, _, _, h | .int _, _, _, h | .string _, _, _, h => by rwa [sorted]
  | .array items, hv, n, h => by
    obtain ⟨inner, rfl, hinner⟩ := exists_room_of_array h
    rw [sorted]
    exact Nat.succ_le_succ (depthOfItems_le_iff.2 (AreDefinite.depth_sortedItems_le hv hinner))
  | .object members, hv, n, h => by
    obtain ⟨inner, rfl, hinner⟩ := exists_room_of_object h
    rw [sorted]
    exact depth_ofMembers_le (HaveDefinite.depth_sortedMembers_le hv.2 hinner)
      (map_fst_sortedMembers members ▸ hv.1)

theorem AreDefinite.depth_sortedItems_le : ∀ {items : List Value}, AreDefinite items → ∀ {n},
    (∀ item ∈ items, item.depth ≤ n) → ∀ item ∈ sortedItems items, item.depth ≤ n
  | [], _, _, _ => by rw [sortedItems]; exact nofun
  | _ :: _, hv, n, h => by
    obtain ⟨hitem, hitems⟩ := List.forall_mem_cons.1 h
    rw [sortedItems]
    exact List.forall_mem_cons.2
      ⟨hv.1.depth_sorted_le hitem, AreDefinite.depth_sortedItems_le hv.2 hitems⟩

theorem HaveDefinite.depth_sortedMembers_le : ∀ {members : List (String × Value)},
    HaveDefinite members → ∀ {n}, (∀ member ∈ members, member.2.depth ≤ n) →
      ∀ member ∈ sortedMembers members, member.2.depth ≤ n
  | [], _, _, _ => by rw [sortedMembers]; exact nofun
  | _ :: _, hv, n, h => by
    obtain ⟨hmember, hmembers⟩ := List.forall_mem_cons.1 h
    rw [sortedMembers]
    exact List.forall_mem_cons.2
      ⟨hv.1.depth_sorted_le hmember, HaveDefinite.depth_sortedMembers_le hv.2 hmembers⟩

end

end Value

namespace Document

/-! ### What a document says -/

mutual

/-- A document says a value. -/
inductive Says : Document → Value → Prop
  /-- The value `null`. -/
  | null : Says .null .null
  /-- A truth value. -/
  | bool {b : Bool} : Says (.bool b) (.bool b)
  /-- An integer, by any numeral that denotes it. -/
  | int {numeral : Numeral} {n : Int} : numeral.read = some (.int n) →
      Says (.number numeral) (.int n)
  /-- A text. -/
  | string {s : String} : Says (.string (some s)) (.string s)
  /-- Items in this order. -/
  | array {items : List Document} {values : List Value} : SayItems items values →
      Says (.array items none) (.array values)
  /-- Members in any order. -/
  | object {members : List (Option String × Document)} {named named' : List (String × Value)} :
      SayMembers members named → named.Perm named' → Says (.object members none) (.object named')

/-- Documents say values, one each. -/
inductive SayItems : List Document → List Value → Prop
  /-- There are none. -/
  | nil : SayItems [] []
  /-- The first one, and the others. -/
  | cons {item : Document} {items : List Document} {value : Value} {values : List Value} :
      Says item value → SayItems items values → SayItems (item :: items) (value :: values)

/-- Members say named values, one each. -/
inductive SayMembers : List (Option String × Document) → List (String × Value) → Prop
  /-- There are none. -/
  | nil : SayMembers [] []
  /-- The first one, and the others. -/
  | cons {key : String} {d : Document} {members : List (Option String × Document)} {value : Value}
      {named : List (String × Value)} : Says d value → SayMembers members named →
      SayMembers ((some key, d) :: members) ((key, value) :: named)

end

/-- A member says a named value. -/
def SaysMember (member : Option String × Document) (p : String × Value) : Prop :=
  member.1 = some p.1 ∧ Says member.2 p.2

theorem sayMembers_iff_forall₂ {members : List (Option String × Document)}
    {named : List (String × Value)} :
    SayMembers members named ↔ List.Forall₂ SaysMember members named := by
  constructor
  · intro h
    induction members generalizing named with
    | nil =>
      cases h
      exact .nil
    | cons member members ih =>
      cases h with
      | cons hd hmembers => exact .cons ⟨rfl, hd⟩ (ih hmembers)
  · intro h
    induction h with
    | nil => exact .nil
    | @cons member p members named hmember _ ih =>
      obtain ⟨key, d⟩ := member
      obtain ⟨rfl, hd⟩ := hmember
      exact .cons hd ih

/-- Members that say named values say them in any other order when they are put in that order. -/
theorem SayMembers.exists_perm {members : List (Option String × Document)}
    {named named' : List (String × Value)} (h : SayMembers members named)
    (hperm : named.Perm named') : ∃ members', members.Perm members' ∧ SayMembers members' named' := by
  have hcomp : Relation.Comp (List.Forall₂ SaysMember) List.Perm members named' :=
    ⟨named, sayMembers_iff_forall₂.1 h, hperm⟩
  rw [List.forall₂_comp_perm_eq_perm_comp_forall₂] at hcomp
  obtain ⟨members', hmembers, hsay⟩ := hcomp
  exact ⟨members', hmembers, sayMembers_iff_forall₂.2 hsay⟩

mutual

/-- **What is printed says the value.** -/
theorem says_ofValue : ∀ {v : Value}, v.Definite → Says (ofValue v) v
  | .null, _ => .null
  | .bool _, _ => .bool
  | .int _, hv => .int (Numeral.read_ofInt hv.1 hv.2)
  | .string _, _ => .string
  | .array _, hv => .array (sayItems_ofItems hv)
  | .object _, hv => .object (sayMembers_ofMembers hv.2) (.refl _)

theorem sayItems_ofItems : ∀ {items : List Value}, Value.AreDefinite items →
    SayItems (ofItems items) items
  | [], _ => .nil
  | _ :: _, hv => .cons (says_ofValue hv.1) (sayItems_ofItems hv.2)

theorem sayMembers_ofMembers : ∀ {members : List (String × Value)}, Value.HaveDefinite members →
    SayMembers (ofMembers members) members
  | [], _ => .nil
  | _ :: _, hv => .cons (says_ofValue hv.1) (sayMembers_ofMembers hv.2)

end

mutual

/-- **What is said is also said in the order of the keys**, since members may come in any order. -/
theorem Says.sorted : ∀ {d : Document} {v : Value}, Says d v → v.Definite → Says d v.sorted
  | _, _, .null, _ => by rw [Value.sorted]; exact .null
  | _, _, .bool, _ => by rw [Value.sorted]; exact .bool
  | _, _, .int hread, _ => by rw [Value.sorted]; exact .int hread
  | _, _, .string, _ => by rw [Value.sorted]; exact .string
  | _, _, .array hitems, hv => by
    rw [Value.sorted]
    exact .array (hitems.sorted hv)
  | _, .object members, @Says.object _ named _ hmembers hperm, hv => by
    have hdefinite := Value.haveDefinite_iff.1 hv.2
    have hsay := hmembers.sorted fun p hp => hdefinite p (hperm.mem_iff.1 hp)
    have hkeys : ((Value.sortedMembers members).map Prod.fst).Nodup :=
      Value.map_fst_sortedMembers members ▸ hv.1
    have hsorted : (Value.sortedMembers named).Perm (Value.sortedMembers members) := by
      rw [Value.sortedMembers_eq_map, Value.sortedMembers_eq_map]
      exact hperm.map _
    rw [Value.sorted]
    exact .object hsay (hsorted.trans (Dict.toList_ofList_perm hkeys).symm)

theorem SayItems.sorted : ∀ {items : List Document} {values : List Value}, SayItems items values →
    Value.AreDefinite values → SayItems items (Value.sortedItems values)
  | _, _, .nil, _ => by rw [Value.sortedItems]; exact .nil
  | _, _, .cons hitem hitems, hv => by
    rw [Value.sortedItems]
    exact .cons (hitem.sorted hv.1) (hitems.sorted hv.2)

theorem SayMembers.sorted : ∀ {members : List (Option String × Document)}
    {named : List (String × Value)}, SayMembers members named → (∀ p ∈ named, p.2.Definite) →
      SayMembers members (Value.sortedMembers named)
  | _, _, .nil, _ => by rw [Value.sortedMembers]; exact .nil
  | _, _, .cons hd hmembers, hv => by
    obtain ⟨hfirst, hothers⟩ := List.forall_mem_cons.1 hv
    rw [Value.sortedMembers]
    exact .cons (hd.sorted hfirst) (hmembers.sorted hothers)

end

/-! ### Reading free-form values -/

mutual

/-- **The reader of free-form values** finds what a document says. -/
theorem Says.toValue_eq : ∀ {d : Document} {v : Value}, Says d v → v.Regular →
    ∀ {room : Nat}, v.depth ≤ room → d.toValue room = .ok v
  | .null, _, .null, _, _, _ => by rw [toValue]
  | .bool _, _, .bool, _, _, _ => by rw [toValue]
  | .number _, _, .int hread, _, _, _ => by rw [toValue, hread]
  | .string _, _, .string, _, _, _ => by rw [toValue]
  | .array items _, _, .array hitems, hv, room, hroom => by
    obtain ⟨inner, rfl, hinner⟩ := Value.exists_room_of_array hroom
    rw [toValue, hitems.toValues_eq (Value.areRegular_iff.1 hv) hinner]
    rfl
  | .object members _, _, .object hmembers hperm, hv, room, hroom => by
    obtain ⟨inner, rfl, hinner⟩ := Value.exists_room_of_object hroom
    have hregular := Value.haveRegular_iff.1 hv.2
    rw [toValue, hmembers.toMembers_eq (fun p hp => hregular p (hperm.mem_iff.1 hp))
      (fun p hp => hinner p (hperm.mem_iff.1 hp)), ok_bind, Option.map_none, requireNone, ok_bind,
      Value.ofMembers, Dict.toList_ofList_of_perm hperm hv.1]

theorem SayItems.toValues_eq : ∀ {items : List Document} {values : List Value},
    SayItems items values → (∀ v ∈ values, v.Regular) →
      ∀ {room : Nat}, (∀ v ∈ values, v.depth ≤ room) → toValues room items = .ok values
  | [], _, .nil, _, _, _ => by rw [toValues]
  | _ :: _, _, .cons hitem hitems, hv, room, hroom => by
    obtain ⟨hfirst, hothers⟩ := List.forall_mem_cons.1 hv
    obtain ⟨hroom, hrooms⟩ := List.forall_mem_cons.1 hroom
    rw [toValues, hitem.toValue_eq hfirst hroom, ok_bind, hitems.toValues_eq hothers hrooms]
    rfl

theorem SayMembers.toMembers_eq : ∀ {members : List (Option String × Document)}
    {named : List (String × Value)}, SayMembers members named → (∀ p ∈ named, p.2.Regular) →
      ∀ {room : Nat}, (∀ p ∈ named, p.2.depth ≤ room) → toMembers room members = .ok named
  | [], _, .nil, _, _, _ => by rw [toMembers]
  | _ :: _, _, .cons hd hmembers, hv, room, hroom => by
    obtain ⟨hfirst, hothers⟩ := List.forall_mem_cons.1 hv
    obtain ⟨hroom, hrooms⟩ := List.forall_mem_cons.1 hroom
    rw [toMembers, keyText, ok_bind, hd.toValue_eq hfirst hroom, ok_bind,
      hmembers.toMembers_eq hothers hrooms]
    rfl

end

end Document

/-! ### Texts -/

/-- A text says a value, and nothing follows it. -/
def Value.HasText (v : Value) (bytes : Bytes) : Prop :=
  ∃ d : Document, Document.ofBytes bytes = (d, none) ∧ d.Says v

/-- **A text says one value** at most. -/
theorem Value.HasText.unique {v w : Value} {bytes : Bytes} (hv : v.HasText bytes)
    (hw : w.HasText bytes) (regular : v.Regular) (regular' : w.Regular) : v = w := by
  obtain ⟨d, hd, hsaid⟩ := hv
  obtain ⟨d', hd', hsaid'⟩ := hw
  obtain rfl : d = d' := (Prod.mk.inj (hd.symm.trans hd')).1
  have hread := hsaid.toValue_eq regular (Nat.le_max_left v.depth w.depth)
  rw [hsaid'.toValue_eq regular' (Nat.le_max_right v.depth w.depth)] at hread
  exact (Except.ok.inj hread).symm

/-- The text without blanks says the value. -/
theorem Value.Definite.hasText_compact {v : Value} (h : v.Definite) :
    v.HasText (Utf8.encode v.compact) :=
  ⟨_, Document.ofBytes_compact h.isExact, Document.says_ofValue h⟩

/-- The text over lines says the value, also with a line end behind it. -/
theorem Value.Definite.hasText_pretty {v : Value} (h : v.Definite) {after : String}
    (hafter : AreBlank after.toList) : v.HasText (Utf8.encode (v.pretty ++ after)) :=
  ⟨_, Document.ofBytes_pretty h.isExact hafter, Document.says_ofValue h⟩

/-- A text of a value says it in the order of the keys, too. -/
theorem Value.HasText.sorted {v : Value} {bytes : Bytes} (htext : v.HasText bytes)
    (h : v.Definite) : v.sorted.HasText bytes := by
  obtain ⟨d, hbytes, hsaid⟩ := htext
  exact ⟨d, hbytes, hsaid.sorted h⟩

end BrokerAdmin.Json
