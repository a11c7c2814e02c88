import BrokerAdmin.Proofs.Json.Meaning

/-!
# Typed values read back

A codec writes a value and reads it again. Whether it finds the same value is asked here for every
document that says what was written, so the order in which members are sent does not matter, and
neither do blanks or the way in which a string is escaped.

A record is put together again field by field. Its members may come in any order, which makes no
difference as fields are set independently of each other; so it is enough to follow the fields in the
order of their declaration, from the record that has nothing set to the one that was written. A field
that was left out must be without a value at that point.

## Main definitions

* `Codec.Restores`: a codec finds a value in what it has written for it.
* `Schema.Independent`: the fields of a record can be set in any order, and none must be given.
* `Field.Assembles`: the fields put a record together.

## Main results

* `Codec.Restores.ofBytes_eq`: the value is read from every text of what was written.
* `Codec.restores_value`, `Codec.restores_list`, `Codec.restores_dict`, …: the codecs that others are
  made from.
* `Schema.Independent.restores`: a record that its fields put together is found again.
-/

namespace BrokerAdmin.Json

open Result Document

variable {T α β : Type}

namespace Codec

/-- A codec finds a value in whatever document says what it has written for it, in any order of the
members. -/
structure Restores (codec : Codec α) (x : α) : Prop where
  /-- What is written loses nothing in a text but the order of members. -/
  definite : (codec.write x).Definite
  /-- What is written is read as the value. -/
  read_eq : ∀ {d room}, Says d (codec.write x).sorted → (codec.write x).sorted.depth ≤ room →
    codec.read room d = .ok x

/-- A codec finds a value that may be missing, and never writes one as `null`. -/
def RestoresOption (codec : Codec α) (x : Option α) : Prop :=
  ∀ y, x = some y → codec.Restores y ∧ codec.write y ≠ .null

variable {codec : Codec α}

/-- **The value is read** from every text of what was written. -/
theorem Restores.ofBytes_eq {x : α} (h : codec.Restores x) {bytes : Bytes}
    (htext : (codec.write x).sorted.HasText bytes) (hdepth : (codec.write x).depth ≤ maxDepth) :
    codec.ofBytes bytes = .ok x := by
  obtain ⟨d, hbytes, hsaid⟩ := htext
  exact ofBytes_eq_ok_iff.2 ⟨d, hbytes, h.read_eq hsaid (h.definite.depth_sorted_le hdepth)⟩

/-! ### Values without parts -/

theorem restores_value {v : Value} (h : v.Regular) : value.Restores v where
  definite := h.definite
  read_eq {d room} hsaid hdepth := by
    have hsorted : (value.write v).sorted = v := h.sorted_eq
    rw [hsorted] at hsaid hdepth
    exact hsaid.toValue_eq h hdepth

theorem restores_string (s : String) : string.Restores s where
  definite := trivial
  read_eq hsaid _ := by
    cases hsaid
    rfl

theorem restores_bool (b : Bool) : bool.Restores b where
  definite := trivial
  read_eq hsaid _ := by
    cases hsaid
    rfl

/-- An integer is restored if its range lies in 64 bits. -/
theorem restores_int {range : IntegerRange} (hlow : -0x8000000000000000 ≤ range.low)
    (hhigh : range.high ≤ 0xFFFFFFFFFFFFFFFF) {n : Int} (h : range.low ≤ n ∧ n ≤ range.high) :
    (int range).Restores n where
  definite := ⟨Int.le_trans hlow h.1, Int.le_trans h.2 hhigh⟩
  read_eq hsaid _ := by
    cases hsaid with
    | int hread => exact read_int_eq_ok_iff.2 ⟨_, rfl, hread, h⟩

/-! ### Arrays and objects with free keys -/

/-- What is written for a value, in the order of the keys. -/
def writeSorted (codec : Codec α) (x : α) : Value := (codec.write x).sorted

theorem readAll_of_sayItems {room : Nat} {items : List Document} {xs : List α}
    (h : ∀ x ∈ xs, codec.Restores x) (hsay : SayItems items (xs.map codec.writeSorted))
    (hroom : ∀ v ∈ xs.map codec.writeSorted, v.depth ≤ room) :
    codec.readAll room items = .ok xs := by
  induction xs generalizing items with
  | nil =>
    cases hsay
    rfl
  | cons x xs ih =>
    cases hsay with
    | cons hitem hitems =>
      obtain ⟨hx, hxs⟩ := List.forall_mem_cons.1 h
      obtain ⟨hdepth, hdepths⟩ := List.forall_mem_cons.1 hroom
      rw [readAll, hx.read_eq hitem hdepth, ok_bind, ih hxs hitems hdepths]
      rfl

/-- **Lists** of values that are restored. -/
theorem restores_list {xs : List α} (h : ∀ x ∈ xs, codec.Restores x) : codec.list.Restores xs where
  definite := Value.areDefinite_iff.2 (List.forall_mem_map.2 fun x hx => (h x hx).definite)
  read_eq hsaid hdepth := by
    have hsorted : (codec.list.write xs).sorted = .array (xs.map codec.writeSorted) := by
      rw [list, Value.sorted, Value.sortedItems_eq_map, List.map_map]
      rfl
    rw [hsorted] at hsaid hdepth
    obtain ⟨inner, rfl, hinner⟩ := Value.exists_room_of_array hdepth
    cases hsaid with
    | array hitems =>
      simp only [list, readAll_of_sayItems h hitems hinner, ok_bind]
      rfl

/-- A member of a dictionary as it is written, in the order of the keys. -/
def named (codec : Codec α) (p : String × α) : String × Value := (p.1, codec.writeSorted p.2)

theorem readNamed_of_sayMembers {room : Nat} {members : List (Option String × Document)}
    {pairs : List (String × α)} (h : ∀ p ∈ pairs, codec.Restores p.2)
    (hsay : SayMembers members (pairs.map codec.named))
    (hroom : ∀ p ∈ pairs.map codec.named, p.2.depth ≤ room) :
    codec.readNamed room members = .ok pairs := by
  induction pairs generalizing members with
  | nil =>
    cases hsay
    rfl
  | cons p pairs ih =>
    cases hsay with
    | cons hitem hitems =>
      obtain ⟨hp, hpairs⟩ := List.forall_mem_cons.1 h
      obtain ⟨hdepth, hdepths⟩ := List.forall_mem_cons.1 hroom
      rw [readNamed, keyText, ok_bind, hp.read_eq hitem hdepth, ok_bind, ih hpairs hitems hdepths]
      rfl

/-- What is written for entries in another order comes from the entries in that order. -/
theorem exists_map_of_perm {f : α → β} {ys : List β} {xs : List α} (h : ys.Perm (xs.map f)) :
    ∃ xs' : List α, xs'.Perm xs ∧ ys = xs'.map f := by
  have hmap : List.Forall₂ (fun y x => y = f x) (xs.map f) xs := by
    rw [List.forall₂_map_left_iff, List.forall₂_same]
    exact fun _ _ => rfl
  obtain ⟨xs', hys, hperm⟩ := List.perm_comp_forall₂ h hmap
  refine ⟨xs', hperm, ?_⟩
  rwa [← List.forall₂_eq_eq_eq, List.forall₂_map_right_iff]

/-- **Dictionaries** of values that are restored. -/
theorem restores_dict {d : Dict α} (h : ∀ p ∈ d.toList, codec.Restores p.2) :
    codec.dict.Restores d where
  definite := by
    refine ⟨?_, Value.haveDefinite_iff.2 (List.forall_mem_map.2 fun p hp => (h p hp).definite)⟩
    rw [List.map_map]
    exact List.pairwise_map.2 (d.sorted.imp String.ne_of_lt)
  read_eq hsaid hdepth := by
    have hsorted : (codec.dict.write d).sorted = .object (d.toList.map codec.named) := by
      rw [dict, Value.sorted, Value.sortedMembers_eq_map, List.map_map, Value.ofMembers]
      exact congrArg Value.object
        (Dict.toList_ofList_of_perm (.refl _) (List.pairwise_map.2 d.sorted))
    rw [hsorted] at hsaid hdepth
    obtain ⟨inner, rfl, hinner⟩ := Value.exists_room_of_object hdepth
    cases hsaid with
    | @object members written _ hmembers hperm =>
      obtain ⟨pairs, hpairs, rfl⟩ := exists_map_of_perm hperm
      have hread : codec.readNamed inner members = .ok pairs :=
        readNamed_of_sayMembers (fun p hp => h p (hpairs.mem_iff.1 hp)) hmembers
          fun p hp => hinner p (hperm.mem_iff.1 hp)
      simp only [dict, hread, ok_bind, Option.map_none, requireNone,
        Dict.ofList_of_perm_toList hpairs]

end Codec

/-! ### Fields in any order -/

namespace Field

/-- A field is set by putting values into a record. -/
def Puts (field : Field T) (put : T → α → T) : Prop :=
  ∀ {room d set}, field.read room d = .ok set → ∃ x, (fun t => put t x) = set

theorem puts_plain {name : String} {presence : Presence} {codec : Codec α} {get : T → α}
    {put : T → α → T} : (plain name presence codec get put).Puts put := fun hset => by
  obtain ⟨x, -, hx⟩ := read_plain_eq_ok_iff.1 hset
  exact ⟨x, hx⟩

theorem puts_omittable {name : String} {presence : Presence} {codec : Codec α} {get : T → Option α}
    {put : T → Option α → T} : (omittable name presence codec get put).Puts put := fun hset => by
  obtain ⟨x, -, hx⟩ := map_eq_ok_iff.1 hset
  exact ⟨x, hx⟩

/-- It does not matter which of two fields is set first. -/
def Swaps (field field' : Field T) : Prop :=
  ∀ room d d' set set', field.read room d = .ok set → field'.read room d' = .ok set' →
    ∀ t, set' (set t) = set (set' t)

theorem Swaps.symm {field field' : Field T} (h : field.Swaps field') : field'.Swaps field :=
  fun room d d' _ _ hset hset' t => (h room d' d _ _ hset' hset t).symm

theorem Puts.swaps {field field' : Field T} {put : T → α → T} {put' : T → β → T}
    (h : field.Puts put) (h' : field'.Puts put')
    (hput : ∀ t x y, put' (put t x) y = put (put' t y) x) : field.Swaps field' := by
  intro _ _ _ _ _ hset hset' t
  obtain ⟨x, rfl⟩ := h hset
  obtain ⟨y, rfl⟩ := h' hset'
  exact hput t x y

/-- **Fields that are set in another order** make the same record. -/
theorem Sets.perm {room : Nat} {given given' : List (Field T × Document)} (hperm : given.Perm given')
    (hswaps : ∀ x ∈ given, ∀ y ∈ given, x.1.name ≠ y.1.name → x.1.Swaps y.1)
    (hnodup : (given.map (·.1.name)).Nodup) {t t' : T} (h : Sets room given t t') :
    Sets room given' t t' := by
  induction hperm generalizing t with
  | nil => exact h
  | cons x _ ih =>
    cases h with
    | cons hset hsets =>
      refine .cons hset (ih (fun y hy z hz => ?_) (List.nodup_cons.1 hnodup).2 hsets)
      exact hswaps y (List.mem_cons_of_mem _ hy) z (List.mem_cons_of_mem _ hz)
  | swap x y given =>
    have hne : y.1.name ≠ x.1.name := fun heq =>
      (List.nodup_cons.1 hnodup).1 (List.mem_map.2 ⟨x, List.mem_cons_self, heq.symm⟩)
    have hxy := hswaps y List.mem_cons_self x (List.mem_cons_of_mem _ List.mem_cons_self) hne
    cases h with
    | cons hset h =>
      cases h with
      | cons hset' hsets =>
        rw [hxy _ _ _ _ _ hset hset'] at hsets
        exact .cons hset' (.cons hset hsets)
  | trans hfirst _ ih ih' =>
    refine ih' (fun y hy z hz => ?_) ((hfirst.map _).nodup_iff.1 hnodup) (ih hswaps hnodup h)
    exact hswaps y (hfirst.mem_iff.2 hy) z (hfirst.mem_iff.2 hz)

/-! ### Putting a record together -/

/-- Setting the fields of a record one after the other leads from another record to it. -/
inductive Assembles (x : T) : List (Field T) → T → Prop
  /-- All fields have been set. -/
  | nil : Assembles x [] x
  /-- A field that is always written. -/
  | plain {V : Type} {name : String} {presence : Presence} {codec : Codec V} {get : T → V}
      {put : T → V → T} {fields : List (Field T)} {t : T} : codec.Restores (get x) →
      Assembles x fields (put t (get x)) → Assembles x (.plain name presence codec get put :: fields) t
  /-- A field that is left out when it has no value. Then it must not have had one before. -/
  | omittable {V : Type} {name : String} {presence : Presence} {codec : Codec V}
      {get : T → Option V} {put : T → Option V → T} {fields : List (Field T)} {t : T} :
      codec.RestoresOption (get x) → put t none = t → Assembles x fields (put t (get x)) →
      Assembles x (.omittable name presence codec get put :: fields) t

/-- A field of a record as it is written, unless it is left out. -/
def written (x : T) (field : Field T) : Option (String × Value) :=
  (field.write x).map (field.name, ·)

/-- What is written of fields. -/
def writtenAll (x : T) (fields : List (Field T)) : List (String × Value) :=
  fields.filterMap (written x)

theorem writtenAll_cons_of_some {x : T} {field : Field T} {v : Value} (h : field.write x = some v)
    (fields : List (Field T)) :
    writtenAll x (field :: fields) = (field.name, v) :: writtenAll x fields :=
  List.filterMap_cons_some (by rw [written, h]; rfl)

theorem writtenAll_cons_of_none {x : T} {field : Field T} (h : field.write x = none)
    (fields : List (Field T)) : writtenAll x (field :: fields) = writtenAll x fields :=
  List.filterMap_cons_none (by rw [written, h]; rfl)

theorem writtenAll_plain {name : String} {presence : Presence} {codec : Codec α} {get : T → α}
    {put : T → α → T} (x : T) (fields : List (Field T)) :
    writtenAll x (plain name presence codec get put :: fields) =
      (name, codec.write (get x)) :: writtenAll x fields :=
  writtenAll_cons_of_some rfl fields

theorem writtenAll_omittable_of_some {name : String} {presence : Presence} {codec : Codec α}
    {get : T → Option α} {put : T → Option α → T} {x : T} {y : α} (h : get x = some y)
    (fields : List (Field T)) :
    writtenAll x (omittable name presence codec get put :: fields) =
      (name, codec.write y) :: writtenAll x fields :=
  writtenAll_cons_of_some (congrArg (Option.map codec.write) h) fields

theorem writtenAll_omittable_of_none {name : String} {presence : Presence} {codec : Codec α}
    {get : T → Option α} {put : T → Option α → T} {x : T} (h : get x = none)
    (fields : List (Field T)) :
    writtenAll x (omittable name presence codec get put :: fields) = writtenAll x fields :=
  writtenAll_cons_of_none (congrArg (Option.map codec.write) h) fields

theorem map_fst_writtenAll_sublist (x : T) (fields : List (Field T)) :
    ((writtenAll x fields).map Prod.fst).Sublist (fields.map Field.name) := by
  induction fields with
  | nil => exact .slnil
  | cons field fields ih =>
    cases hwrite : field.write x with
    | none =>
      rw [writtenAll_cons_of_none hwrite]
      exact ih.cons _
    | some v =>
      rw [writtenAll_cons_of_some hwrite]
      exact ih.cons_cons _

theorem Assembles.definite {x : T} {fields : List (Field T)} {t : T} (h : Assembles x fields t) :
    ∀ p ∈ writtenAll x fields, p.2.Definite := by
  induction h with
  | nil => exact nofun
  | plain hrestores _ ih =>
    rw [writtenAll_plain]
    exact List.forall_mem_cons.2 ⟨hrestores.definite, ih⟩
  | @omittable V name presence codec get put fields t hrestores _ _ ih =>
    cases hget : get x with
    | none =>
      rw [writtenAll_omittable_of_none hget]
      exact ih
    | some y =>
      rw [writtenAll_omittable_of_some hget]
      exact List.forall_mem_cons.2 ⟨(hrestores y hget).1.definite, ih⟩

/-- A field that is always written gets its value back. -/
theorem read_plain {name : String} {presence : Presence} {codec : Codec α} {get : T → α}
    {put : T → α → T} {y : α} (hrestores : codec.Restores y) {d : Document} {room : Nat}
    (hsaid : Says d (codec.write y).sorted) (hdepth : (codec.write y).sorted.depth ≤ room) :
    (plain name presence codec get put).read room d = .ok fun t => put t y :=
  read_plain_eq_ok_iff.2 ⟨y, hrestores.read_eq hsaid hdepth, rfl⟩

/-- A field that was not left out gets its value back, since it was not written as `null`. -/
theorem read_omittable {name : String} {presence : Presence} {codec : Codec α} {get : T → Option α}
    {put : T → Option α → T} {y : α} (hrestores : codec.Restores y) (hne : codec.write y ≠ .null)
    {d : Document} {room : Nat} (hsaid : Says d (codec.write y).sorted)
    (hdepth : (codec.write y).sorted.depth ≤ room) :
    (omittable name presence codec get put).read room d = .ok fun t => put t (some y) := by
  have hread := hrestores.read_eq hsaid hdepth
  refine map_eq_ok_iff.2 ⟨some y, ?_, rfl⟩
  cases d with
  | null =>
    generalize hsorted : (codec.write y).sorted = v at hsaid
    cases hsaid
    exact absurd (Value.sorted_eq_null_iff.1 hsorted) hne
  | _ => exact map_eq_ok_iff.2 ⟨y, hread, rfl⟩

end Field

namespace Schema

open Json.Field

variable {schema : Schema T}

/-- The fields of a record can be set in any order, and a record can be read without any of them. -/
structure Independent (schema : Schema T) : Prop where
  /-- Unknown members are passed over. -/
  leftovers : schema.leftovers = none
  /-- No two fields have one key. -/
  names : (schema.fields.map Field.name).Nodup
  /-- No member must be given. -/
  presence : ∀ field ∈ schema.fields, field.presence ≠ .required
  /-- It does not matter which of two fields is set first. -/
  swaps : schema.fields.Pairwise Swaps

theorem Independent.swaps_of_name_ne (h : schema.Independent) {field field' : Field T}
    (hmem : field ∈ schema.fields) (hmem' : field' ∈ schema.fields)
    (hne : field.name ≠ field'.name) : field.Swaps field' := by
  have hsymm : Std.Symm (Swaps (T := T)) := ⟨fun _ _ => Swaps.symm⟩
  exact h.swaps.forall hmem hmem' fun heq => hne (congrArg Field.name heq)

/-- Members with these keys can be read, and lead from one record to another. -/
structure Rebuilds (schema : Schema T) (room : Nat) (members : List (Option String × Document))
    (keys : List String) (t x : T) : Prop where
  /-- Every member is a field or can be passed over. -/
  understood : ∀ member ∈ members, schema.IsUnderstood member
  /-- The keys are those of the fields that are given. -/
  names : (schema.given members).map (·.1.name) = keys
  /-- The fields that are given lead from one record to the other. -/
  sets : Sets room (schema.given members) t x

theorem Independent.rebuilds_cons (h : schema.Independent) {field : Field T}
    (hfield : field ∈ schema.fields) {room : Nat} {d : Document} {set : T → T}
    (hset : field.read room d = .ok set) {members : List (Option String × Document)}
    {keys : List String} {t x : T} (hmembers : schema.Rebuilds room members keys (set t) x) :
    schema.Rebuilds room ((some field.name, d) :: members) (field.name :: keys) t x := by
  have hfind := find?_of_mem h.names hfield
  refine ⟨List.forall_mem_cons.2 ⟨isUnderstood_of_find hfind, hmembers.understood⟩, ?_, ?_⟩
  · rw [given_cons_of_some hfind, List.map_cons, hmembers.names]
  · rw [given_cons_of_some hfind]
    exact .cons hset hmembers.sets

/-- **Members that say what is written** of fields put the record together. -/
theorem Independent.rebuilds (h : schema.Independent) {x : T} {fields : List (Field T)}
    (hfields : ∀ field ∈ fields, field ∈ schema.fields) {t : T} (hx : Assembles x fields t)
    {members : List (Option String × Document)}
    (hsay : SayMembers members (Value.sortedMembers (writtenAll x fields))) {room : Nat}
    (hroom : ∀ p ∈ Value.sortedMembers (writtenAll x fields), p.2.depth ≤ room) :
    schema.Rebuilds room members ((writtenAll x fields).map Prod.fst) t x := by
  induction hx generalizing members with
  | nil =>
    cases hsay
    exact ⟨nofun, rfl, .nil⟩
  | plain hrestores _ ih =>
    obtain ⟨hfield, hfields⟩ := List.forall_mem_cons.1 hfields
    rw [writtenAll_plain] at hsay hroom ⊢
    obtain ⟨hdepth, hroom⟩ := List.forall_mem_cons.1 hroom
    cases hsay with
    | cons hd hmembers =>
      exact h.rebuilds_cons hfield (read_plain hrestores hd hdepth) (ih hfields hmembers hroom)
  | @omittable V name presence codec get put fields t hrestores hput _ ih =>
    obtain ⟨hfield, hfields⟩ := List.forall_mem_cons.1 hfields
    cases hget : get x with
    | none =>
      rw [writtenAll_omittable_of_none hget] at hsay hroom ⊢
      rw [hget, hput] at ih
      exact ih hfields hsay hroom
    | some y =>
      rw [writtenAll_omittable_of_some hget] at hsay hroom ⊢
      rw [hget] at ih
      obtain ⟨hdepth, hroom⟩ := List.forall_mem_cons.1 hroom
      obtain ⟨hy, hne⟩ := hrestores y hget
      cases hsay with
      | cons hd hmembers =>
        exact h.rebuilds_cons hfield (read_omittable hy hne hd hdepth) (ih hfields hmembers hroom)

theorem members_eq_writtenAll (h : schema.leftovers = none) (x : T) :
    schema.members x = writtenAll x schema.fields := by
  rw [members, h]
  exact List.append_nil _

/-- **A record is found again** in what has been written for it, whatever the order of its members. -/
theorem Independent.restores (h : schema.Independent) {x : T}
    (hx : Assembles x schema.fields schema.blank) : schema.codec.Restores x := by
  have hwrite : schema.codec.write x = .object (writtenAll x schema.fields) :=
    congrArg Value.object (members_eq_writtenAll h.leftovers x)
  have hnodup : ((writtenAll x schema.fields).map Prod.fst).Nodup :=
    h.names.sublist (map_fst_writtenAll_sublist x schema.fields)
  refine ⟨hwrite ▸ ⟨hnodup, Value.haveDefinite_iff.2 hx.definite⟩, fun hsaid hdepth => ?_⟩
  rw [hwrite, Value.sorted] at hsaid hdepth
  have hkeys := Value.map_fst_sortedMembers (writtenAll x schema.fields)
  have hsorted := Dict.toList_ofList_perm (hkeys ▸ hnodup)
  obtain ⟨inner, rfl, hinner⟩ := Value.exists_room_of_object hdepth
  cases hsaid with
  | @object members named _ hmembers hperm =>
    -- The members are followed in the order of the fields and then put back into their own order.
    obtain ⟨members', hmembers', hsay⟩ := hmembers.exists_perm (hperm.trans hsorted)
    have hrebuilds := h.rebuilds (fun _ hmem => hmem) hx hsay
      fun p hp => hinner p (hsorted.mem_iff.2 hp)
    have hgiven : (schema.given members').Perm (schema.given members) :=
      hmembers'.symm.filterMap _
    have hnodup' : ((schema.given members').map (·.1.name)).Nodup := hrebuilds.names ▸ hnodup
    refine (read_object_eq_ok_iff h.leftovers).2 ⟨rfl, fun member hmem => ?_, ?_,
      fun field hfield hrequired => absurd hrequired (h.presence field hfield), ?_⟩
    · exact hrebuilds.understood member (hmembers'.mem_iff.1 hmem)
    · exact (hgiven.map _).nodup_iff.1 hnodup'
    · exact hrebuilds.sets.perm hgiven (fun y hy z hz => h.swaps_of_name_ne (mem_fields_of_mem_given hy)
        (mem_fields_of_mem_given hz)) hnodup'

end Schema

end BrokerAdmin.Json
