import BrokerAdmin.Proofs.Json.Codecs
import Mathlib.Data.List.Nodup

/-!
# Reading records

A record is read from the members of an object in the order in which they stand, or from the items
of an array. In both cases some fields are set from documents, one after the other, and what comes of
the record is known by looking at one field at a time: a field that is given once has the value of
its document, whatever stands before and behind it.

## Main definitions

* `Document.Gives`: the members of an object give a key once.
* `Field.Sets`: a record after fields have been set from documents.
* `Field.Keeps`: a field that leaves alone what a function sees of a record.
* `Schema.given`: the fields that the members of an object give.
* `Schema.Takes`: a record after members have been read.

## Main results

* `Field.Sets.eq_of_keeps`, `Field.Sets.exists_of_mem`: a record, one field at a time.
* `Schema.read_object_eq_ok_iff_takes`, `Schema.read_array_eq_ok_iff_sets`: which documents a record
  is read from; `Schema.read_object_eq_ok_iff`, `Schema.read_array_eq_ok_iff` if unknown members are
  passed over and if no field may be missing.
* `Schema.nodup_given_iff`: when every field is given once.
* `Schema.read_of_gives`, `Schema.exists_sets_of_gives`: the fields of an object, one at a time.
-/

namespace BrokerAdmin.Json

open Result

namespace Document

/-! ### Members -/

/-- The members of an object give a key once. -/
def Gives (members : List (Option String × Document)) (key : String) (d : Document) : Prop :=
  members.filter (·.1 = some key) = [(some key, d)]

theorem Gives.mem {members : List (Option String × Document)} {key : String} {d : Document}
    (h : Gives members key d) : (some key, d) ∈ members := by
  have hmem : (some key, d) ∈ members.filter (·.1 = some key) := h ▸ List.mem_singleton_self _
  exact (List.mem_filter.1 hmem).1

theorem Gives.eq_of_mem {members : List (Option String × Document)} {key : String}
    {d d' : Document} (h : Gives members key d) (hmem : (some key, d') ∈ members) : d' = d := by
  have hfilter : (some key, d') ∈ members.filter (·.1 = some key) :=
    List.mem_filter.2 ⟨hmem, by simp⟩
  rw [h, List.mem_singleton] at hfilter
  exact (Prod.mk.inj hfilter).2

theorem exists_gives_iff {members : List (Option String × Document)} {key : String} :
    (∃ d, Gives members key d) ↔ (members.filter (·.1 = some key)).length = 1 := by
  rw [List.length_eq_one_iff]
  constructor
  · rintro ⟨d, h⟩
    exact ⟨_, h⟩
  · rintro ⟨⟨key?, d⟩, h⟩
    have hmem : (key?, d) ∈ members.filter (·.1 = some key) := h ▸ List.mem_singleton_self _
    obtain rfl : key? = some key := by simpa using (List.mem_filter.1 hmem).2
    exact ⟨d, h⟩

end Document

variable {T α : Type}

namespace Field

/-! ### Fields set one after the other -/

/-- What becomes of a record when fields are set from documents, one after the other. -/
inductive Sets (room : Nat) : List (Field T × Document) → T → T → Prop
  /-- There is nothing to set. -/
  | nil {t : T} : Sets room [] t t
  /-- One field is set, and then the others. -/
  | cons {field : Field T} {d : Document} {given : List (Field T × Document)} {set : T → T}
      {t t' : T} : field.read room d = .ok set → Sets room given (set t) t' →
      Sets room ((field, d) :: given) t t'

/-- A field leaves alone what a function sees of a record. -/
def Keeps (field : Field T) (see : T → α) : Prop :=
  ∀ room d set, field.read room d = .ok set → ∀ t, see (set t) = see t

theorem read_plain_eq_ok_iff {name : String} {presence : Presence} {codec : Codec α} {get : T → α}
    {put : T → α → T} {room : Nat} {d : Document} {set : T → T} :
    (plain name presence codec get put).read room d = .ok set ↔
      ∃ x, codec.read room d = .ok x ∧ (fun t => put t x) = set :=
  map_eq_ok_iff

theorem read_plain_int_eq_ok_iff {name : String} {presence : Presence} {range : IntegerRange}
    {get : T → Int} {put : T → Int → T} {room : Nat} {d : Document} {set : T → T} :
    (plain name presence (.int range) get put).read room d = .ok set ↔
      ∃ n, d.IsInteger range n ∧ (fun t => put t n) = set := by
  simp only [read_plain_eq_ok_iff, Codec.read_int_eq_ok_iff]

theorem keeps_plain {β : Type} {name : String} {presence : Presence} {codec : Codec α}
    {get : T → α} {put : T → α → T} {see : T → β} (h : ∀ t x, see (put t x) = see t) :
    (plain name presence codec get put).Keeps see := by
  intro _ _ _ hset t
  obtain ⟨x, -, rfl⟩ := read_plain_eq_ok_iff.1 hset
  exact h t x

/-- What all fields that are set leave alone stays as it was. -/
theorem Sets.eq_of_keeps {room : Nat} {given : List (Field T × Document)} {t t' : T}
    (h : Sets room given t t') {see : T → α} (hkeeps : ∀ x ∈ given, x.1.Keeps see) :
    see t' = see t := by
  induction h with
  | nil => rfl
  | cons hset _ ih =>
    obtain ⟨hfirst, hothers⟩ := List.forall_mem_cons.1 hkeeps
    rw [ih hothers, hfirst _ _ _ hset]

/-- **A field that is given once** has the value of its document, if the others leave it alone. -/
theorem Sets.exists_of_mem {room : Nat} {given : List (Field T × Document)} {t t' : T}
    (h : Sets room given t t') (hnodup : (given.map (·.1.name)).Nodup) {field : Field T}
    {d : Document} (hmem : (field, d) ∈ given) {see : T → α}
    (hkeeps : ∀ x ∈ given, x.1.name ≠ field.name → x.1.Keeps see) :
    ∃ set s, field.read room d = .ok set ∧ see t' = see (set s) := by
  induction h with
  | nil => cases hmem
  | @cons first d' given set t t' hset hsets ih =>
    obtain ⟨hfirst, hothers⟩ := List.nodup_cons.1 hnodup
    rcases List.mem_cons.1 hmem with heq | hmem
    · obtain ⟨rfl, rfl⟩ := Prod.mk.inj heq
      refine ⟨set, t, hset, hsets.eq_of_keeps fun x hx => ?_⟩
      exact hkeeps x (List.mem_cons_of_mem _ hx) fun hname =>
        hfirst (List.mem_map.2 ⟨x, hx, hname⟩)
    · exact ih hothers hmem fun x hx => hkeeps x (List.mem_cons_of_mem _ hx)

/-- A field that is always written has what is read from its document. -/
theorem Sets.read_of_mem {room : Nat} {given : List (Field T × Document)} {t t' : T}
    (h : Sets room given t t') (hnodup : (given.map (·.1.name)).Nodup) {name : String}
    {presence : Presence} {codec : Codec α} {get : T → α} {put : T → α → T} {d : Document}
    (hmem : (plain name presence codec get put, d) ∈ given) (hput : ∀ t x, get (put t x) = x)
    (hkeeps : ∀ x ∈ given, x.1.name ≠ name → x.1.Keeps get) :
    codec.read room d = .ok (get t') := by
  obtain ⟨set, s, hset, heq⟩ := h.exists_of_mem hnodup hmem hkeeps
  obtain ⟨x, hread, rfl⟩ := read_plain_eq_ok_iff.1 hset
  rw [heq, hput, hread]

/-- Fields can be set if each of them can. -/
theorem Sets.exists_of_forall {room : Nat} {given : List (Field T × Document)}
    (h : ∀ x ∈ given, ∃ set, x.1.read room x.2 = .ok set) (t : T) : ∃ t', Sets room given t t' := by
  induction given generalizing t with
  | nil => exact ⟨t, .nil⟩
  | cons x given ih =>
    obtain ⟨⟨set, hset⟩, hothers⟩ := List.forall_mem_cons.1 h
    obtain ⟨t', hsets⟩ := ih hothers (set t)
    exact ⟨t', .cons hset hsets⟩

end Field

namespace Schema

open Document Json.Field

variable {schema : Schema T}

/-! ### Objects -/

/-- The fields that members give, with their documents, in the order of the members. -/
def given (schema : Schema T) (members : List (Option String × Document)) :
    List (Field T × Document) :=
  members.filterMap fun member =>
    (member.1.bind fun key => schema.fields.find? (·.name = key)).map (·, member.2)

/-- A member that can be read or passed over: its key is a text, and what is no field of the record
is whole. -/
def IsUnderstood (schema : Schema T) (member : Option String × Document) : Prop :=
  ∃ key, member.1 = some key ∧
    (schema.fields.find? (·.name = key) = none → member.2.skip = .ok ())

theorem isUnderstood_of_find {key : String} {field : Field T} {d : Document}
    (h : schema.fields.find? (·.name = key) = some field) : schema.IsUnderstood (some key, d) :=
  ⟨key, rfl, fun hnone => by rw [h] at hnone; cases hnone⟩

theorem isUnderstood_iff_of_none {key : String} {d : Document}
    (h : schema.fields.find? (·.name = key) = none) :
    schema.IsUnderstood (some key, d) ↔ d.skip = .ok () := by
  constructor
  · rintro ⟨_, heq, hskip⟩
    obtain rfl := Option.some.inj heq
    exact hskip h
  · exact fun hskip => ⟨key, rfl, fun _ => hskip⟩

theorem given_cons_of_some {key : String} {field : Field T}
    (h : schema.fields.find? (·.name = key) = some field) (d : Document)
    (members : List (Option String × Document)) :
    schema.given ((some key, d) :: members) = (field, d) :: schema.given members := by
  simp [given, h]

theorem given_cons_of_none {key : String} (h : schema.fields.find? (·.name = key) = none)
    (d : Document) (members : List (Option String × Document)) :
    schema.given ((some key, d) :: members) = schema.given members := by
  simp [given, h]

theorem mem_given_iff {members : List (Option String × Document)} {field : Field T} {d : Document} :
    (field, d) ∈ schema.given members ↔ ∃ key, (some key, d) ∈ members ∧
      schema.fields.find? (·.name = key) = some field := by
  simp only [given, List.mem_filterMap, Option.map_eq_some_iff, Option.bind_eq_some_iff]
  constructor
  · rintro ⟨⟨key?, d'⟩, hmem, field', ⟨key, rfl, hfind⟩, heq⟩
    obtain ⟨rfl, rfl⟩ := Prod.mk.inj heq
    exact ⟨key, hmem, hfind⟩
  · rintro ⟨key, hmem, hfind⟩
    exact ⟨(some key, d), hmem, field, ⟨key, rfl, hfind⟩, rfl⟩

/-- What becomes of a record when one member is read: a field of it is set, and what is no field is
put aside or passed over. -/
def readMember (schema : Schema T) (room : Nat) (key : String) (d : Document) (t : T) :
    Except ReadFault T :=
  match schema.fields.find? (·.name = key) with
  | some field => (field.read room d).map fun set => set t
  | none =>
    match schema.leftovers with
    | some leftovers => (d.toValue room).map (leftovers.put t key)
    | none => d.skip.map fun _ => t

/-- What becomes of a record when members are read, one after the other. -/
inductive Takes (schema : Schema T) (room : Nat) : List (Option String × Document) → T → T → Prop
  /-- There are none. -/
  | nil {t : T} : Takes schema room [] t t
  /-- One member is read, and then the others. -/
  | cons {key : String} {d : Document} {members : List (Option String × Document)} {t s t' : T} :
    schema.readMember room key d t = .ok s → Takes schema room members s t' →
    Takes schema room ((some key, d) :: members) t t'

theorem readMember_of_some {key : String} {field : Field T}
    (h : schema.fields.find? (·.name = key) = some field) (room : Nat) (d : Document) (t : T) :
    schema.readMember room key d t = (field.read room d).map fun set => set t := by
  rw [readMember, h]

theorem takes_cons_iff {room : Nat} {key : String} {d : Document}
    {members : List (Option String × Document)} {t t' : T} :
    schema.Takes room ((some key, d) :: members) t t' ↔
      ∃ s, schema.readMember room key d t = .ok s ∧ schema.Takes room members s t' := by
  constructor
  · intro h
    cases h with
    | cons hread hmembers => exact ⟨_, hread, hmembers⟩
  · rintro ⟨s, hread, hmembers⟩
    exact .cons hread hmembers

theorem readMembers_cons_of_some {key : String} {field : Field T}
    (h : schema.fields.find? (·.name = key) = some field) {room : Nat} {d : Document}
    {members : List (Option String × Document)} {seen : List String} {t : T}
    {out : List String × T} :
    schema.readMembers room ((some key, d) :: members) seen t = .ok out ↔
      key ∉ seen ∧ ∃ s, schema.readMember room key d t = .ok s ∧
        schema.readMembers room members (key :: seen) s = .ok out := by
  rw [readMembers, Document.keyText, ok_bind, h, readMember_of_some h]
  dsimp only
  split
  · next hseen => simpa using fun hnot => absurd (by simpa using hseen) hnot
  · next hseen =>
    have hnew : key ∉ seen := by simpa using hseen
    cases field.read room d <;> simp [hnew]

theorem readMembers_cons_of_none {key : String}
    (h : schema.fields.find? (·.name = key) = none) {room : Nat} {d : Document}
    {members : List (Option String × Document)} {seen : List String} {t : T}
    {out : List String × T} :
    schema.readMembers room ((some key, d) :: members) seen t = .ok out ↔
      ∃ s, schema.readMember room key d t = .ok s ∧
        schema.readMembers room members seen s = .ok out := by
  rw [readMembers, Document.keyText, ok_bind, readMember, h]
  cases schema.leftovers with
  | none =>
    dsimp only
    cases d.skip <;> simp
  | some leftovers =>
    dsimp only
    cases d.toValue room <;> simp

/-- **Which members are read into a record**: those that can be read one after the other and give no
field twice. -/
theorem readMembers_eq_ok_iff {room : Nat} {members : List (Option String × Document)}
    {seen seen' : List String} {t t' : T} :
    schema.readMembers room members seen t = .ok (seen', t') ↔
      ((schema.given members).map (·.1.name)).Nodup ∧
      (∀ x ∈ schema.given members, x.1.name ∉ seen) ∧
      seen' = ((schema.given members).map (·.1.name)).reverse ++ seen ∧
      schema.Takes room members t t' := by
  induction members generalizing seen t with
  | nil =>
    rw [readMembers]
    constructor
    · intro h
      obtain ⟨rfl, rfl⟩ := Prod.mk.inj (Except.ok.inj h)
      exact ⟨.nil, by simp [given], rfl, .nil⟩
    · rintro ⟨-, -, rfl, htakes⟩
      cases htakes
      rfl
  | cons member members ih =>
    obtain ⟨key?, d⟩ := member
    cases key? with
    | none =>
      constructor
      · intro h
        simp [readMembers, Document.keyText] at h
      · rintro ⟨-, -, -, htakes⟩
        cases htakes
    | some key =>
      rw [takes_cons_iff]
      cases hfind : schema.fields.find? (·.name = key) with
      | none =>
        rw [readMembers_cons_of_none hfind, given_cons_of_none hfind]
        constructor
        · rintro ⟨s, hread, h⟩
          obtain ⟨hnodup, hfresh, hseen', htakes⟩ := ih.1 h
          exact ⟨hnodup, hfresh, hseen', s, hread, htakes⟩
        · rintro ⟨hnodup, hfresh, hseen', s, hread, htakes⟩
          exact ⟨s, hread, ih.2 ⟨hnodup, hfresh, hseen', htakes⟩⟩
      | some field =>
        -- A field of the record must not have been given before.
        have hname : field.name = key := by simpa using List.find?_some hfind
        rw [readMembers_cons_of_some hfind, given_cons_of_some hfind, List.map_cons,
          List.nodup_cons, List.forall_mem_cons, hname, List.reverse_cons, List.append_assoc,
          List.singleton_append]
        constructor
        · rintro ⟨hseen, s, hread, h⟩
          obtain ⟨hnodup, hfresh, hseen', htakes⟩ := ih.1 h
          have hnew : ∀ x ∈ schema.given members, x.1.name ≠ key ∧ x.1.name ∉ seen :=
            fun x hx => not_or.1 fun hmem => hfresh x hx (List.mem_cons.2 hmem)
          refine ⟨⟨fun hmem => ?_, hnodup⟩, ⟨hseen, fun x hx => (hnew x hx).2⟩, hseen', s, hread,
            htakes⟩
          obtain ⟨x, hx, hxname⟩ := List.mem_map.1 hmem
          exact (hnew x hx).1 hxname
        · rintro ⟨⟨hnew, hnodup⟩, ⟨hseen, hfresh⟩, hseen', s, hread, htakes⟩
          refine ⟨hseen, s, hread, ih.2 ⟨hnodup, fun x hx hmem => ?_, hseen', htakes⟩⟩
          rcases List.mem_cons.1 hmem with hxname | hmem
          · exact hnew (List.mem_map.2 ⟨x, hx, hxname⟩)
          · exact hfresh x hx hmem

theorem complete_eq_true_iff {seen : List String} : schema.complete seen = true ↔
    ∀ field ∈ schema.fields, field.presence = .required → field.name ∈ seen := by
  simp only [complete, List.all_eq_true, Bool.or_eq_true, bne_iff_ne, List.contains_iff_mem,
    ne_eq, Decidable.imp_iff_not_or]

/-- **Which objects a record is read from**: those that end well, whose members can be read and give
no field twice, and which give every required field. -/
theorem read_object_eq_ok_iff_takes {room : Nat} {members : List (Option String × Document)}
    {flaws : Option Flaws} {t : T} :
    schema.read (room + 1) (.object members flaws) = .ok t ↔
      flaws = none ∧ ((schema.given members).map (·.1.name)).Nodup ∧
      (∀ field ∈ schema.fields, field.presence = .required →
        field.name ∈ (schema.given members).map (·.1.name)) ∧
      schema.Takes room members schema.blank t := by
  rw [read]
  constructor
  · intro h
    obtain ⟨⟨seen, t'⟩, hmembers, h⟩ := bind_eq_ok_iff.1 h
    obtain ⟨⟨⟩, hflaws, h⟩ := bind_eq_ok_iff.1 h
    obtain ⟨hnodup, -, rfl, htakes⟩ := readMembers_eq_ok_iff.1 hmembers
    split at h
    · next hcomplete =>
      obtain rfl := Except.ok.inj h
      refine ⟨Option.map_eq_none_iff.1 (requireNone_eq_ok_iff.1 hflaws), hnodup,
        fun field hfield hrequired => ?_, htakes⟩
      have hseen := complete_eq_true_iff.1 hcomplete field hfield hrequired
      rwa [List.append_nil, List.mem_reverse] at hseen
    · cases h
  · rintro ⟨rfl, hnodup, hrequired, htakes⟩
    have hmembers := readMembers_eq_ok_iff.2 ⟨hnodup, fun x _ => List.not_mem_nil, rfl, htakes⟩
    rw [hmembers, ok_bind, Option.map_none, requireNone]
    refine if_pos (complete_eq_true_iff.2 fun field hfield hpresence => ?_)
    rw [List.append_nil, List.mem_reverse]
    exact hrequired field hfield hpresence

/-- Where unknown members are passed over, the fields that are given are set. -/
theorem takes_iff_sets (hleft : schema.leftovers = none) {room : Nat}
    {members : List (Option String × Document)} {t t' : T} :
    schema.Takes room members t t' ↔
      (∀ member ∈ members, schema.IsUnderstood member) ∧ Sets room (schema.given members) t t' := by
  induction members generalizing t with
  | nil =>
    constructor
    · intro h
      cases h
      exact ⟨nofun, .nil⟩
    · rintro ⟨-, hsets⟩
      cases hsets
      exact .nil
  | cons member members ih =>
    obtain ⟨key?, d⟩ := member
    cases key? with
    | none =>
      constructor
      · intro h
        cases h
      · rintro ⟨hunderstood, -⟩
        obtain ⟨key, hkey, -⟩ := hunderstood _ List.mem_cons_self
        cases hkey
    | some key =>
      rw [takes_cons_iff, List.forall_mem_cons]
      cases hfind : schema.fields.find? (·.name = key) with
      | none =>
        rw [given_cons_of_none hfind, isUnderstood_iff_of_none hfind, readMember, hfind, hleft]
        constructor
        · rintro ⟨s, hread, htakes⟩
          obtain ⟨⟨⟩, hskip, rfl⟩ := map_eq_ok_iff.1 hread
          obtain ⟨hunderstood, hsets⟩ := ih.1 htakes
          exact ⟨⟨hskip, hunderstood⟩, hsets⟩
        · rintro ⟨⟨hskip, hunderstood⟩, hsets⟩
          exact ⟨t, map_eq_ok_iff.2 ⟨(), hskip, rfl⟩, ih.2 ⟨hunderstood, hsets⟩⟩
      | some field =>
        rw [given_cons_of_some hfind, readMember_of_some hfind]
        constructor
        · rintro ⟨s, hread, htakes⟩
          obtain ⟨set, hset, rfl⟩ := map_eq_ok_iff.1 hread
          obtain ⟨hunderstood, hsets⟩ := ih.1 htakes
          exact ⟨⟨isUnderstood_of_find hfind, hunderstood⟩, .cons hset hsets⟩
        · rintro ⟨⟨-, hunderstood⟩, hsets⟩
          cases hsets with
          | @cons _ _ _ set _ _ hset hsets =>
            exact ⟨set t, map_eq_ok_iff.2 ⟨set, hset, rfl⟩, ih.2 ⟨hunderstood, hsets⟩⟩

/-- **Which objects a record is read from**, if unknown members are passed over: those that end well,
whose members are understood and give no field twice, and which give every required field. -/
theorem read_object_eq_ok_iff (hleft : schema.leftovers = none) {room : Nat}
    {members : List (Option String × Document)} {flaws : Option Flaws} {t : T} :
    schema.read (room + 1) (.object members flaws) = .ok t ↔
      flaws = none ∧ (∀ member ∈ members, schema.IsUnderstood member) ∧
      ((schema.given members).map (·.1.name)).Nodup ∧
      (∀ field ∈ schema.fields, field.presence = .required →
        field.name ∈ (schema.given members).map (·.1.name)) ∧
      Sets room (schema.given members) schema.blank t := by
  rw [read_object_eq_ok_iff_takes, takes_iff_sets hleft]
  constructor
  · rintro ⟨hflaws, hnodup, hrequired, hunderstood, hsets⟩
    exact ⟨hflaws, hunderstood, hnodup, hrequired, hsets⟩
  · rintro ⟨hflaws, hunderstood, hnodup, hrequired, hsets⟩
    exact ⟨hflaws, hnodup, hrequired, hunderstood, hsets⟩

/-! ### Fields that are given once -/

/-- A field is given as often as its key. -/
theorem count_given {key : String} {field : Field T}
    (h : schema.fields.find? (·.name = key) = some field)
    (members : List (Option String × Document)) :
    ((schema.given members).map (·.1.name)).count key =
      (members.filter (·.1 = some key)).length := by
  induction members with
  | nil => rfl
  | cons member members ih =>
    obtain ⟨key?, d⟩ := member
    by_cases hkey : key? = some key
    · have hname : field.name = key := by simpa using List.find?_some h
      rw [hkey, given_cons_of_some h, List.filter_cons_of_pos (by simp), List.map_cons,
        List.length_cons, hname, List.count_cons_self, ih]
    · rw [List.filter_cons_of_neg (by simpa using hkey), ← ih]
      -- What another key gives is another field, if it gives one.
      cases key? with
      | none => rfl
      | some key' =>
        cases hfind : schema.fields.find? (·.name = key') with
        | none => rw [given_cons_of_none hfind]
        | some field' =>
          have hname : field'.name = key' := by simpa using List.find?_some hfind
          rw [given_cons_of_some hfind, List.map_cons, hname,
            List.count_cons_of_ne fun heq => hkey (congrArg some heq)]

theorem find?_of_mem (hnames : (schema.fields.map Field.name).Nodup) {field : Field T}
    (h : field ∈ schema.fields) : schema.fields.find? (·.name = field.name) = some field := by
  cases hfind : schema.fields.find? (·.name = field.name) with
  | none => exact absurd (decide_eq_true rfl) (List.find?_eq_none.1 hfind field h)
  | some field' =>
    have hname : field'.name = field.name := by simpa using List.find?_some hfind
    rw [List.inj_on_of_nodup_map hnames (List.mem_of_find?_eq_some hfind) h hname]

theorem find?_eq_none_iff {key : String} :
    schema.fields.find? (·.name = key) = none ↔ key ∉ schema.fields.map Field.name := by
  simp only [List.find?_eq_none, decide_eq_true_eq, List.mem_map, not_exists, not_and]

theorem mem_fields_of_mem_given {members : List (Option String × Document)}
    {x : Field T × Document} (h : x ∈ schema.given members) : x.1 ∈ schema.fields := by
  obtain ⟨key, -, hfind⟩ := mem_given_iff.1 h
  exact List.mem_of_find?_eq_some hfind

theorem mem_given_of_gives (hnames : (schema.fields.map Field.name).Nodup) {field : Field T}
    (hfield : field ∈ schema.fields) {members : List (Option String × Document)} {d : Document}
    (h : Gives members field.name d) : (field, d) ∈ schema.given members :=
  mem_given_iff.2 ⟨field.name, h.mem, find?_of_mem hnames hfield⟩

theorem eq_of_mem_given {members : List (Option String × Document)} {field : Field T}
    {d d' : Document} (h : Gives members field.name d) (hmem : (field, d') ∈ schema.given members) :
    d' = d := by
  obtain ⟨key, hkey, hfind⟩ := mem_given_iff.1 hmem
  have hname : field.name = key := by simpa using List.find?_some hfind
  exact h.eq_of_mem (hname ▸ hkey)

/-- Members can be read if each field is given once and its document can be read. -/
theorem exists_sets_of_gives {room : Nat} {members : List (Option String × Document)}
    (h : ∀ field ∈ schema.fields, ∃ d set, Gives members field.name d ∧
      field.read room d = .ok set) (t : T) : ∃ t', Sets room (schema.given members) t t' := by
  refine Sets.exists_of_forall ?_ t
  rintro ⟨field, d⟩ hmem
  obtain ⟨d', set, hgives, hset⟩ := h field (mem_fields_of_mem_given hmem)
  obtain rfl := eq_of_mem_given hgives hmem
  exact ⟨set, hset⟩

/-- A field that is given once has what is read from its document. -/
theorem read_of_gives (hnames : (schema.fields.map Field.name).Nodup) {room : Nat}
    {members : List (Option String × Document)} {t t' : T}
    (hsets : Sets room (schema.given members) t t')
    (hnodup : ((schema.given members).map (·.1.name)).Nodup) {name : String}
    {presence : Presence} {codec : Codec α} {get : T → α} {put : T → α → T} {d : Document}
    (hfield : plain name presence codec get put ∈ schema.fields) (hgives : Gives members name d)
    (hput : ∀ t x, get (put t x) = x)
    (hkeeps : ∀ field ∈ schema.fields, field.name ≠ name → field.Keeps get) :
    codec.read room d = .ok (get t') :=
  hsets.read_of_mem hnodup (mem_given_of_gives hnames hfield hgives) hput fun x hx =>
    hkeeps x.1 (mem_fields_of_mem_given hx)

/-- **Every field is given once** when none is given twice and all that must be given are given. -/
theorem nodup_given_iff (hnames : (schema.fields.map Field.name).Nodup)
    (hrequired : ∀ field ∈ schema.fields, field.presence = .required)
    {members : List (Option String × Document)} :
    ((schema.given members).map (·.1.name)).Nodup ∧
      (∀ field ∈ schema.fields, field.presence = .required →
        field.name ∈ (schema.given members).map (·.1.name)) ↔
      ∀ field ∈ schema.fields, ∃ d, Gives members field.name d := by
  have hcount : ∀ field ∈ schema.fields, (∃ d, Gives members field.name d) ↔
      ((schema.given members).map (·.1.name)).count field.name = 1 := fun field hfield => by
    rw [exists_gives_iff, count_given (find?_of_mem hnames hfield)]
  constructor
  · rintro ⟨hnodup, hgiven⟩ field hfield
    exact (hcount field hfield).2
      (List.count_eq_one_of_mem hnodup (hgiven field hfield (hrequired field hfield)))
  · intro h
    refine ⟨List.nodup_iff_count_eq_one.2 fun name hname => ?_, fun field hfield _ => ?_⟩
    · obtain ⟨x, hmem, rfl⟩ := List.mem_map.1 hname
      have hfield := mem_fields_of_mem_given hmem
      exact (hcount x.1 hfield).1 (h x.1 hfield)
    · exact List.one_le_count_iff.1 (Nat.le_of_eq ((hcount field hfield).1 (h field hfield)).symm)

/-! ### Arrays -/

/-- **Which items are read into fields**: as many as there are fields, where fields at the end may be
missing if they are optional. -/
theorem readItems_eq_ok_iff {room : Nat} {fields : List (Field T)} {items : List Document}
    {flaw : Option Flaw} {t t' : T} : readItems room fields items flaw t = .ok t' ↔
      flaw = none ∧ items.length ≤ fields.length ∧
      (∀ field ∈ fields.drop items.length, field.presence = .optional) ∧
      Sets room (fields.zip items) t t' := by
  induction fields generalizing items flaw t with
  | nil =>
    cases items with
    | nil =>
      constructor
      · intro h
        obtain ⟨⟨⟩, hflaw, h⟩ := bind_eq_ok_iff.1 h
        obtain rfl := Except.ok.inj h
        exact ⟨requireNone_eq_ok_iff.1 hflaw, Nat.le_refl 0, nofun, .nil⟩
      · rintro ⟨rfl, -, -, hsets⟩
        cases hsets
        rfl
    | cons item items => simp [readItems]
  | cons field fields ih =>
    cases items with
    | nil =>
      rw [readItems, List.length_nil, List.drop_zero, List.forall_mem_cons, List.zip_nil_right]
      constructor
      · intro h
        obtain ⟨⟨⟩, hflaw, h⟩ := bind_eq_ok_iff.1 h
        split at h
        · next hfield =>
          obtain ⟨-, -, hothers, hsets⟩ := ih.1 h
          rw [List.zip_nil_right] at hsets
          exact ⟨requireNone_eq_ok_iff.1 hflaw, Nat.zero_le _, ⟨hfield, hothers⟩, hsets⟩
        · cases h
      · rintro ⟨rfl, -, ⟨hfield, hothers⟩, hsets⟩
        rw [requireNone, ok_bind, if_pos hfield]
        refine ih.2 ⟨rfl, Nat.zero_le _, hothers, ?_⟩
        rwa [List.zip_nil_right]
    | cons item items =>
      rw [readItems, List.zip_cons_cons, List.length_cons, List.length_cons, List.drop_succ_cons,
        Nat.add_le_add_iff_right]
      constructor
      · intro h
        obtain ⟨set, hset, h⟩ := bind_eq_ok_iff.1 h
        obtain ⟨hflaw, hlength, hothers, hsets⟩ := ih.1 h
        exact ⟨hflaw, hlength, hothers, .cons hset hsets⟩
      · rintro ⟨hflaw, hlength, hothers, hsets⟩
        cases hsets with
        | cons hset hsets =>
          rw [hset, ok_bind]
          exact ih.2 ⟨hflaw, hlength, hothers, hsets⟩

/-- **Which arrays a record is read from**, if it keeps no unknown members: those that end well and
have an item for each field, up to optional fields at the end. -/
theorem read_array_eq_ok_iff_sets (hleft : schema.leftovers = none) {room : Nat}
    {items : List Document} {flaw : Option Flaw} {t : T} :
    schema.read (room + 1) (.array items flaw) = .ok t ↔ flaw = none ∧
      items.length ≤ schema.fields.length ∧
      (∀ field ∈ schema.fields.drop items.length, field.presence = .optional) ∧
      Sets room (schema.fields.zip items) schema.blank t := by
  rw [read, hleft, Option.isSome_none, if_neg (by decide)]
  exact readItems_eq_ok_iff

/-- **Which arrays a record is read from**, if no field may be missing: those that end well and have
an item for each field. -/
theorem read_array_eq_ok_iff (hleft : schema.leftovers = none)
    (hfields : ∀ field ∈ schema.fields, field.presence ≠ .optional) {room : Nat}
    {items : List Document} {flaw : Option Flaw} {t : T} :
    schema.read (room + 1) (.array items flaw) = .ok t ↔ flaw = none ∧
      items.length = schema.fields.length ∧ Sets room (schema.fields.zip items) schema.blank t := by
  rw [read_array_eq_ok_iff_sets hleft]
  refine and_congr_right fun _ => ?_
  constructor
  · rintro ⟨hlength, hmissing, hsets⟩
    refine ⟨Nat.le_antisymm hlength (List.drop_eq_nil_iff.1 ?_), hsets⟩
    exact List.eq_nil_iff_forall_not_mem.2 fun field hfield =>
      hfields field (List.mem_of_mem_drop hfield) (hmissing field hfield)
  · rintro ⟨hlength, hsets⟩
    refine ⟨Nat.le_of_eq hlength, fun field hfield => ?_, hsets⟩
    rw [hlength, List.drop_length] at hfield
    cases hfield

end Schema

end BrokerAdmin.Json
