import BrokerAdmin.Proofs.Json.ReadBack

/-!
# Fields and what is left over

A record may keep the members of an object that are no fields of it. What is seen of a record that
is read depends on one key: the members with other keys leave it alone, so it was decided when the
last member with this key was read. A field looks at its own key and has a place in the record that
nothing else touches. An unknown key is looked up among what is left over, where a later member takes
the place of an earlier one.

In the written form the fields and the leftovers stand side by side. They cannot collide, since no
key of a field is ever left over.

## Main definitions

* `Document.last?`: the document of a key, the last of several.
* `Document.HasValue`: a value under a key that may be missing.
* `Schema.Spares`: a key whose members leave alone what a function sees of a record.
* `Schema.Owns`: a field with a place of its own in a record.
* `Schema.KeepsOthers`: a record that keeps unknown members.

## Main results

* `Schema.Takes.of_spares`: the last member with the key that matters decides.
* `Schema.Owns.hasValue`: a field has the value of its key or what the blank record has.
* `Schema.KeepsOthers.get?_of_mem`, `Schema.KeepsOthers.get?_of_notMem`: what is left over.
* `Schema.KeepsOthers.get?_write_of_find?`, `Schema.KeepsOthers.get?_write_of_notMem`: what is
  written.
-/

namespace BrokerAdmin.Json

open Result

variable {T α : Type}

namespace Document

/-- The document of a key of an object; of several the last counts. -/
def last? (members : List (Option String × Document)) (key : String) : Option Document :=
  members.reverse.lookup (some key)

variable {members : List (Option String × Document)} {key : String}

theorem last?_cons (key? : Option String) (d : Document)
    (members : List (Option String × Document)) (key : String) :
    last? ((key?, d) :: members) key =
      (last? members key).or (if key? = some key then some d else none) := by
  rw [last?, List.reverse_cons, List.lookup_append, List.lookup_cons, List.lookup_nil, last?]
  by_cases h : key? = some key
  · rw [if_pos h, h, beq_self_eq_true]
  · rw [if_neg h, beq_eq_false_iff_ne.2 (Ne.symm h)]

theorem last?_eq_none_iff : last? members key = none ↔ ∀ member ∈ members, member.1 ≠ some key := by
  simp only [last?, List.lookup_eq_none_iff, List.mem_reverse, bne, Bool.not_eq_true',
    beq_eq_false_iff_ne, ne_comm]

theorem mem_of_last? {d : Document} (h : last? members key = some d) : (some key, d) ∈ members := by
  obtain ⟨before, after, heq, -⟩ := List.lookup_eq_some_iff.1 h
  exact List.mem_reverse.1 (heq ▸ List.mem_append_right before List.mem_cons_self)

/-- A key that is not given twice is given once if it is given at all. -/
theorem gives_of_last? {d : Document} (h : last? members key = some d)
    (honce : (members.filter (·.1 = some key)).length ≤ 1) : Gives members key d := by
  have hmem : (some key, d) ∈ members.filter (·.1 = some key) :=
    List.mem_filter.2 ⟨mem_of_last? h, by simp⟩
  obtain ⟨d', hgives⟩ :=
    exists_gives_iff.2 (Nat.le_antisymm honce (List.length_pos_of_mem hmem))
  rwa [hgives.eq_of_mem (mem_of_last? h)]

/-- A value under a key of an object: the key is given once and its document holds the value, or the
key is missing and the value is the one that stands for this. -/
def HasValue (members : List (Option String × Document)) (key : String)
    (Holds : Document → α → Prop) (default x : α) : Prop :=
  (∃ d, Gives members key d ∧ Holds d x) ∨
    (∀ member ∈ members, member.1 ≠ some key) ∧ x = default

end Document

namespace Schema

open Document Json.Field

variable {schema : Schema T} {room : Nat} {members : List (Option String × Document)} {t t' : T}

/-! ### One key at a time -/

/-- The members of a key leave alone what a function sees of a record. -/
def Spares (schema : Schema T) (key : String) (see : T → α) : Prop :=
  ∀ room d t s, schema.readMember room key d t = .ok s → see s = see t

/-- A key is looked at as a field or, if it is none, as something that is left over. -/
theorem spares_of_keeps {key : String} {see : T → α}
    (hfield : ∀ field ∈ schema.fields, field.name = key → field.Keeps see)
    (hothers : ∀ leftovers, schema.leftovers = some leftovers →
      schema.fields.find? (·.name = key) = none → ∀ t v, see (leftovers.put t key v) = see t) :
    schema.Spares key see := by
  intro room d t s h
  cases hfind : schema.fields.find? (·.name = key) with
  | some field =>
    rw [readMember_of_some hfind] at h
    obtain ⟨set, hset, rfl⟩ := map_eq_ok_iff.1 h
    have hname : field.name = key := by simpa using List.find?_some hfind
    exact hfield field (List.mem_of_find?_eq_some hfind) hname room d set hset t
  | none =>
    rw [readMember, hfind] at h
    cases hleft : schema.leftovers with
    | some leftovers =>
      rw [hleft] at h
      obtain ⟨v, -, rfl⟩ := map_eq_ok_iff.1 h
      exact hothers leftovers hleft hfind t v
    | none =>
      rw [hleft] at h
      obtain ⟨⟨⟩, -, rfl⟩ := map_eq_ok_iff.1 h
      rfl

/-- **The last member with the key that matters decides** what is seen of a record in the end. -/
theorem Takes.of_spares (h : schema.Takes room members t t') {key : String} {see : T → α}
    (hspares : ∀ key' ≠ key, schema.Spares key' see) :
    last? members key = none ∧ see t' = see t ∨
      ∃ d s r, last? members key = some d ∧ schema.readMember room key d s = .ok r ∧
        see t' = see r := by
  induction h with
  | nil => exact .inl ⟨rfl, rfl⟩
  | @cons key' d members t s t' hread _ ih =>
    rw [last?_cons]
    rcases ih with ⟨hlast, hsee⟩ | ⟨d', s', r, hlast, hread', hsee⟩
    · rw [hlast, Option.none_or]
      by_cases hkey : key' = key
      · subst hkey
        rw [if_pos rfl]
        exact .inr ⟨d, t, s, rfl, hread, hsee⟩
      · rw [if_neg (mt Option.some.inj hkey)]
        exact .inl ⟨rfl, hsee.trans (hspares key' hkey room d t s hread)⟩
    · rw [hlast]
      exact .inr ⟨d', s', r, rfl, hread', hsee⟩

/-- What no member touches stays as it was. -/
theorem Takes.eq_of_spares (h : schema.Takes room members t t') {see : T → α}
    (hspares : ∀ key, schema.Spares key see) : see t' = see t := by
  induction h with
  | nil => rfl
  | @cons key d _ t s _ hread _ ih => exact ih.trans (hspares key room d t s hread)

/-- The keys of members that can be read are texts. -/
theorem Takes.exists_key (h : schema.Takes room members t t') :
    ∀ member ∈ members, ∃ key, member.1 = some key := by
  induction h with
  | nil => exact nofun
  | cons _ _ ih => exact List.forall_mem_cons.2 ⟨⟨_, rfl⟩, ih⟩

/-! ### Fields -/

/-- A field has a place of its own in a record, which nothing else touches. -/
structure Owns (schema : Schema T) (name : String) (codec : Codec α) (get : T → α) : Prop where
  /-- The field is found under its name and is what its place was last set to. -/
  find? : ∃ presence put, (∀ t x, get (put t x) = x) ∧
    schema.fields.find? (·.name = name) = some (plain name presence codec get put)
  /-- The other fields leave its place alone. -/
  fields : ∀ field ∈ schema.fields, field.name ≠ name → field.Keeps get
  /-- What is left over leaves its place alone. -/
  leftovers : ∀ leftovers, schema.leftovers = some leftovers →
    ∀ t key v, get (leftovers.put t key v) = get t

theorem Owns.spares {name : String} {codec : Codec α} {get : T → α} (h : schema.Owns name codec get)
    {key : String} (hkey : key ≠ name) : schema.Spares key get :=
  spares_of_keeps (fun field hfield hname => h.fields field hfield (hname.trans_ne hkey))
    fun leftovers hleft _ t v => h.leftovers leftovers hleft t key v

/-- **A field has the value of its key**, or what the blank record has if the key is missing. -/
theorem Owns.hasValue {name : String} {codec : Codec α} {get : T → α}
    (h : schema.Owns name codec get) (htakes : schema.Takes room members schema.blank t)
    (hnodup : ((schema.given members).map (·.1.name)).Nodup) {Holds : Document → α → Prop}
    (hholds : ∀ {d x}, codec.read room d = .ok x → Holds d x) :
    HasValue members name Holds (get schema.blank) (get t) := by
  obtain ⟨presence, put, hput, hfind⟩ := h.find?
  rcases htakes.of_spares fun _ => h.spares with ⟨hlast, hsee⟩ | ⟨d, s, r, hlast, hread, hsee⟩
  · exact .inr ⟨last?_eq_none_iff.1 hlast, hsee⟩
  · rw [readMember_of_some hfind] at hread
    obtain ⟨set, hset, rfl⟩ := map_eq_ok_iff.1 hread
    obtain ⟨x, hx, rfl⟩ := read_plain_eq_ok_iff.1 hset
    have honce : (members.filter (·.1 = some name)).length ≤ 1 := by
      rw [← count_given hfind]
      exact List.nodup_iff_count_le_one.1 hnodup name
    rw [hput] at hsee
    exact .inl ⟨d, gives_of_last? hlast honce, hholds (hsee ▸ hx)⟩

/-! ### Leftovers -/

/-- A record keeps the members that are no fields of it, apart from its fields. -/
structure KeepsOthers (schema : Schema T) (leftovers : Leftovers T) : Prop where
  /-- This is where unknown members go. -/
  leftovers_eq : schema.leftovers = some leftovers
  /-- No two fields have one key. -/
  names : (schema.fields.map Field.name).Nodup
  /-- At first nothing is left over. -/
  blank : leftovers.get schema.blank = .empty
  /-- A later member takes the place of an earlier one. -/
  get_put : ∀ t key v, leftovers.get (leftovers.put t key v) = (leftovers.get t).insert key v
  /-- The fields leave alone what is left over. -/
  keeps : ∀ field ∈ schema.fields, field.Keeps leftovers.get

namespace KeepsOthers

variable {leftovers : Leftovers T} {key : String}

theorem spares (h : schema.KeepsOthers leftovers) {key' : String}
    (hkey : schema.fields.find? (·.name = key') = none → key' ≠ key) :
    schema.Spares key' fun t => (leftovers.get t).get? key := by
  refine spares_of_keeps (fun field hfield _ room d set hset t => ?_)
    fun leftovers' hleft hfind t v => ?_
  · rw [h.keeps field hfield room d set hset t]
  · obtain rfl := Option.some.inj (h.leftovers_eq.symm.trans hleft)
    rw [h.get_put, Dict.get?_insert, if_neg (hkey hfind)]

/-- **No key of a field is left over.** -/
theorem get?_of_mem (h : schema.KeepsOthers leftovers)
    (htakes : schema.Takes room members schema.blank t) (hkey : key ∈ schema.fields.map Field.name) :
    (leftovers.get t).get? key = none := by
  have hspares : ∀ key', schema.Spares key' fun t => (leftovers.get t).get? key := fun key' =>
    h.spares fun hfind heq => find?_eq_none_iff.1 hfind (heq ▸ hkey)
  rw [htakes.eq_of_spares hspares, h.blank]
  rfl

/-- **Every other key is left over** if it is given, with the value of its last document. -/
theorem get?_of_notMem (h : schema.KeepsOthers leftovers)
    (htakes : schema.Takes room members schema.blank t) (hkey : key ∉ schema.fields.map Field.name) :
    ((leftovers.get t).get? key).map .ok = (last? members key).map fun d => d.toValue room := by
  have hspares : ∀ key' ≠ key, schema.Spares key' fun t => (leftovers.get t).get? key :=
    fun _ hne => h.spares fun _ => hne
  rcases htakes.of_spares hspares with ⟨hlast, hsee⟩ | ⟨d, s, r, hlast, hread, hsee⟩
  · rw [hsee, hlast, h.blank]
    rfl
  · rw [readMember, find?_eq_none_iff.2 hkey, h.leftovers_eq] at hread
    obtain ⟨v, hv, rfl⟩ := map_eq_ok_iff.1 hread
    rw [hsee, hlast, h.get_put, Dict.get?_insert, if_pos rfl, Option.map_some, Option.map_some, hv]

/-! ### The written form -/

theorem members_eq (h : schema.KeepsOthers leftovers) (t : T) :
    schema.members t = writtenAll t schema.fields ++ (leftovers.get t).toList := by
  rw [members, h.leftovers_eq]
  rfl

/-- Fields and leftovers do not collide. -/
theorem nodup_members (h : schema.KeepsOthers leftovers)
    (hapart : ∀ key ∈ schema.fields.map Field.name, (leftovers.get t).get? key = none) :
    ((schema.members t).map Prod.fst).Nodup := by
  have hfields := map_fst_writtenAll_sublist t schema.fields
  rw [h.members_eq, List.map_append, List.nodup_append]
  refine ⟨h.names.sublist hfields, ?_, ?_⟩
  · exact List.pairwise_map.2 ((leftovers.get t).sorted.imp String.ne_of_lt)
  · rintro key hkey _ hleft rfl
    obtain ⟨⟨_, v⟩, hmem, rfl⟩ := List.mem_map.1 hleft
    have hsome := Dict.mem_entries_iff.1 hmem
    rw [hapart _ (hfields.subset hkey)] at hsome
    cases hsome

/-- **A field is written** under its key. -/
theorem get?_write_of_find? (h : schema.KeepsOthers leftovers)
    (hapart : ∀ key ∈ schema.fields.map Field.name, (leftovers.get t).get? key = none)
    {presence : Presence} {codec : Codec α} {get : T → α} {put : T → α → T}
    (hfind : schema.fields.find? (·.name = key) = some (plain key presence codec get put)) :
    (Dict.ofList (schema.members t)).get? key = some (codec.write (get t)) := by
  rw [Dict.get?_ofList_eq_some_iff (h.nodup_members hapart), h.members_eq]
  exact List.mem_append_left _
    (List.mem_filterMap.2 ⟨_, List.mem_of_find?_eq_some hfind, rfl⟩)

/-- **What is left over is written** under the keys that are no fields. -/
theorem get?_write_of_notMem (h : schema.KeepsOthers leftovers)
    (hapart : ∀ key ∈ schema.fields.map Field.name, (leftovers.get t).get? key = none)
    (hkey : key ∉ schema.fields.map Field.name) :
    (Dict.ofList (schema.members t)).get? key = (leftovers.get t).get? key := by
  refine Option.ext fun v => ?_
  have hfields : (key, v) ∉ writtenAll t schema.fields := fun hmem =>
    hkey ((map_fst_writtenAll_sublist t schema.fields).subset (List.mem_map_of_mem hmem))
  rw [Dict.get?_ofList_eq_some_iff (h.nodup_members hapart), h.members_eq, List.mem_append,
    or_iff_right hfields]
  exact Dict.mem_entries_iff

/-! ### Whole texts -/

/-- A record that keeps unknown members is only read from an object. -/
theorem exists_takes_of_ofBytes (h : schema.KeepsOthers leftovers) {bytes : Bytes}
    (hread : schema.codec.ofBytes bytes = .ok t) :
    ∃ members, Document.ofBytes bytes = (.object members none, none) ∧
      ((schema.given members).map (·.1.name)).Nodup ∧
      schema.Takes (Codec.maxDepth - 1) members schema.blank t := by
  obtain ⟨d, hbytes, hread⟩ := Codec.ofBytes_eq_ok_iff.1 hread
  change schema.read (Codec.maxDepth - 1 + 1) d = .ok t at hread
  cases d with
  | object members flaws =>
    obtain ⟨rfl, hnodup, -, htakes⟩ := read_object_eq_ok_iff_takes.1 hread
    exact ⟨members, hbytes, hnodup, htakes⟩
  | array items flaw =>
    rw [read, h.leftovers_eq, Option.isSome_some, if_pos rfl] at hread
    cases hread
  | _ => cases hread

end KeepsOthers

end Schema

end BrokerAdmin.Json
