import BrokerAdmin.Proofs.Dict
import BrokerAdmin.Proofs.Json.Layout
import BrokerAdmin.Proofs.Json.Record
import BrokerAdmin.Proofs.MessageId

/-!
# The JSON text of a message id

An id is written as an object of three integers; its place in a batch is left out. It is read from
any object that gives the three keys once, whatever else it holds, and from an array of the three
numbers. Which numbers a document gives for an id is said here without the reader, and the reader is
shown to find these and no others.

The reader of the text form ends with a check of the numbers. The reader of the JSON form has no such
check, so what it accepts depends on the ranges of the fields alone, and these have negative numbers.

## Main definitions

* `MessageId.IsJson`: a document gives the numbers of an id.

## Main results

* `MessageId.ofString_eq_ok_iff`: from which texts an id is read.
* `MessageId.text_and_json_readBack`: the text and the JSON text of an id read back.
* `MessageId.inBounds_of_read_iff`: when no reader makes an id with a number out of bounds.
-/

namespace BrokerAdmin.MessageId

open Json Json.Document Json.Field Json.Schema Result

/-! ### The fields -/

/-- The field of the ledger. -/
def ledgerField : Json.Field MessageId :=
  .plain "ledgerId" .required (.int (.signed 64)) ledger fun id n => { id with ledger := n }

/-- The field of the entry. -/
def entryField : Json.Field MessageId :=
  .plain "entryId" .required (.int (.signed 64)) entry fun id n => { id with entry := n }

/-- The field of the partition. -/
def partitionField : Json.Field MessageId :=
  .plain "partitionIndex" .required (.int (.signed 32)) partition
    fun id n => { id with partition := n }

theorem schema_fields : schema.fields = [ledgerField, entryField, partitionField] := rfl

/-- The keys of an id. -/
def keys : List String := ["ledgerId", "entryId", "partitionIndex"]

theorem map_name_fields : schema.fields.map Json.Field.name = keys := rfl

theorem nodup_names : (schema.fields.map Json.Field.name).Nodup := by
  rw [map_name_fields]
  decide

theorem required_of_mem : ∀ field ∈ schema.fields, field.presence = .required := by
  simp [schema_fields, ledgerField, entryField, partitionField, plain]

theorem find?_eq_none_iff {key : String} :
    schema.fields.find? (·.name = key) = none ↔ key ∉ keys := by
  rw [Schema.find?_eq_none_iff, map_name_fields]

/-! ### JSON texts of ids -/

/-- A document gives the numbers of an id: as the members of an object, each of them once and among
others that are passed over, or as the items of an array. -/
inductive IsJson : Document → Int → Int → Int → Prop
  /-- The members may stand in any order. -/
  | object {members : List (Option String × Document)} {dl de dp : Document} {l e p : Int} :
      (∀ member ∈ members, ∃ key, member.1 = some key ∧ (key ∈ keys ∨ member.2.skip = .ok ())) →
      Gives members "ledgerId" dl → dl.IsInteger (.signed 64) l →
      Gives members "entryId" de → de.IsInteger (.signed 64) e →
      Gives members "partitionIndex" dp → dp.IsInteger (.signed 32) p →
      IsJson (.object members none) l e p
  /-- The items stand in this order. -/
  | array {dl de dp : Document} {l e p : Int} : dl.IsInteger (.signed 64) l →
      de.IsInteger (.signed 64) e → dp.IsInteger (.signed 32) p →
      IsJson (.array [dl, de, dp] none) l e p

theorem isUnderstood_iff {member : Option String × Document} : schema.IsUnderstood member ↔
    ∃ key, member.1 = some key ∧ (key ∈ keys ∨ member.2.skip = .ok ()) := by
  simp only [IsUnderstood, find?_eq_none_iff, Classical.or_iff_not_imp_left]

theorem eq_of_numbers {id id' : MessageId} (hledger : id.ledger = id'.ledger)
    (hentry : id.entry = id'.entry) (hpartition : id.partition = id'.partition)
    (hbatch : id.batch = id'.batch) : id = id' := by
  cases id
  cases id'
  simp_all

/-- A field of an id leaves the other numbers alone. -/
theorem keeps_of_mem_fields {field : Json.Field MessageId} (h : field ∈ schema.fields) :
    field.Keeps batch ∧ (field.name ≠ "ledgerId" → field.Keeps ledger) ∧
      (field.name ≠ "entryId" → field.Keeps entry) ∧
      (field.name ≠ "partitionIndex" → field.Keeps partition) := by
  rw [schema_fields] at h
  simp only [List.mem_cons, List.not_mem_nil, or_false] at h
  rcases h with rfl | rfl | rfl
  · exact ⟨keeps_plain fun _ _ => rfl, fun hne => absurd rfl hne, fun _ => keeps_plain fun _ _ => rfl,
      fun _ => keeps_plain fun _ _ => rfl⟩
  · exact ⟨keeps_plain fun _ _ => rfl, fun _ => keeps_plain fun _ _ => rfl, fun hne => absurd rfl hne,
      fun _ => keeps_plain fun _ _ => rfl⟩
  · exact ⟨keeps_plain fun _ _ => rfl, fun _ => keeps_plain fun _ _ => rfl,
      fun _ => keeps_plain fun _ _ => rfl, fun hne => absurd rfl hne⟩

/-- The numbers of an id that is read from members are those of its documents. -/
theorem isInteger_of_sets {members : List (Option String × Document)} {room : Nat}
    {id : MessageId} {dl de dp : Document} (hl : Gives members "ledgerId" dl)
    (he : Gives members "entryId" de) (hp : Gives members "partitionIndex" dp)
    (hnodup : ((schema.given members).map (·.1.name)).Nodup)
    (hsets : Sets room (schema.given members) schema.blank id) :
    dl.IsInteger (.signed 64) id.ledger ∧ de.IsInteger (.signed 64) id.entry ∧
      dp.IsInteger (.signed 32) id.partition ∧ id.batch = noIndex := by
  have hledger : ledgerField ∈ schema.fields := by simp [schema_fields]
  have hentry : entryField ∈ schema.fields := by simp [schema_fields]
  have hpartition : partitionField ∈ schema.fields := by simp [schema_fields]
  refine ⟨Codec.read_int_eq_ok_iff.1
      (read_of_gives nodup_names hsets hnodup hledger hl (fun _ _ => rfl) ?_),
    Codec.read_int_eq_ok_iff.1
      (read_of_gives nodup_names hsets hnodup hentry he (fun _ _ => rfl) ?_),
    Codec.read_int_eq_ok_iff.1
      (read_of_gives nodup_names hsets hnodup hpartition hp (fun _ _ => rfl) ?_), ?_⟩
  · exact fun field hfield => (keeps_of_mem_fields hfield).2.1
  · exact fun field hfield => (keeps_of_mem_fields hfield).2.2.1
  · exact fun field hfield => (keeps_of_mem_fields hfield).2.2.2
  · exact hsets.eq_of_keeps fun x hx => (keeps_of_mem_fields (mem_fields_of_mem_given hx)).1

/-- Members that give the numbers of an id can be read. -/
theorem exists_sets {members : List (Option String × Document)} {dl de dp : Document}
    {l e p : Int} (hl : Gives members "ledgerId" dl) (hl' : dl.IsInteger (.signed 64) l)
    (he : Gives members "entryId" de) (he' : de.IsInteger (.signed 64) e)
    (hp : Gives members "partitionIndex" dp) (hp' : dp.IsInteger (.signed 32) p) (room : Nat) :
    ∃ id, Sets room (schema.given members) schema.blank id := by
  refine exists_sets_of_gives ?_ schema.blank
  rw [schema_fields]
  simp only [List.forall_mem_cons, List.not_mem_nil, false_implies, implies_true, and_true]
  exact ⟨⟨dl, _, hl, read_plain_int_eq_ok_iff.2 ⟨l, hl', rfl⟩⟩,
    ⟨de, _, he, read_plain_int_eq_ok_iff.2 ⟨e, he', rfl⟩⟩,
    ⟨dp, _, hp, read_plain_int_eq_ok_iff.2 ⟨p, hp', rfl⟩⟩⟩

/-- The items of an array set the three numbers. -/
theorem sets_items_iff {room : Nat} {dl de dp : Document} {id : MessageId} :
    Sets room ([ledgerField, entryField, partitionField].zip [dl, de, dp]) schema.blank id ↔
      ∃ l e p, dl.IsInteger (.signed 64) l ∧ de.IsInteger (.signed 64) e ∧
        dp.IsInteger (.signed 32) p ∧ id = ⟨l, e, p, noIndex⟩ := by
  constructor
  · intro h
    cases h with
    | cons hl h =>
      cases h with
      | cons he h =>
        cases h with
        | cons hp h =>
          cases h
          obtain ⟨l, hl', rfl⟩ := read_plain_int_eq_ok_iff.1 hl
          obtain ⟨e, he', rfl⟩ := read_plain_int_eq_ok_iff.1 he
          obtain ⟨p, hp', rfl⟩ := read_plain_int_eq_ok_iff.1 hp
          exact ⟨l, e, p, hl', he', hp', rfl⟩
  · rintro ⟨l, e, p, hl, he, hp, rfl⟩
    exact .cons (read_plain_int_eq_ok_iff.2 ⟨l, hl, rfl⟩)
      (.cons (read_plain_int_eq_ok_iff.2 ⟨e, he, rfl⟩)
        (.cons (read_plain_int_eq_ok_iff.2 ⟨p, hp, rfl⟩) .nil))

/-- **From which documents an id is read.** -/
theorem read_eq_ok_iff {room : Nat} {d : Document} {id : MessageId} :
    codec.read (room + 1) d = .ok id ↔
      IsJson d id.ledger id.entry id.partition ∧ id.batch = noIndex := by
  have hcodec : codec.read = schema.read := rfl
  have hrequired : ∀ field ∈ schema.fields, field.presence ≠ .optional := fun field hfield => by
    simp [required_of_mem field hfield]
  cases d with
  | object members flaws =>
    rw [hcodec, read_object_eq_ok_iff rfl]
    constructor
    · rintro ⟨rfl, hunderstood, hnodup, hgiven, hsets⟩
      have hgives := (nodup_given_iff nodup_names required_of_mem).1 ⟨hnodup, hgiven⟩
      obtain ⟨dl, hl⟩ := hgives ledgerField (by simp [schema_fields])
      obtain ⟨de, he⟩ := hgives entryField (by simp [schema_fields])
      obtain ⟨dp, hp⟩ := hgives partitionField (by simp [schema_fields])
      obtain ⟨hl', he', hp', hbatch⟩ := isInteger_of_sets hl he hp hnodup hsets
      exact ⟨.object (fun member hmem => isUnderstood_iff.1 (hunderstood member hmem)) hl hl' he he'
        hp hp', hbatch⟩
    · rintro ⟨hjson, hbatch⟩
      cases hjson with
      | object hmembers hl hl' he he' hp hp' =>
        have hgives : ∀ field ∈ schema.fields, ∃ d, Gives members field.name d := by
          rw [schema_fields]
          simp only [List.forall_mem_cons, List.not_mem_nil, false_implies, implies_true, and_true]
          exact ⟨⟨_, hl⟩, ⟨_, he⟩, ⟨_, hp⟩⟩
        -- Something can be read, and what is read has the numbers of the documents.
        obtain ⟨hnodup, hgiven⟩ := (nodup_given_iff nodup_names required_of_mem).2 hgives
        obtain ⟨id', hsets⟩ := exists_sets hl hl' he he' hp hp' room
        obtain ⟨hl'', he'', hp'', hbatch'⟩ := isInteger_of_sets hl he hp hnodup hsets
        have hid : id' = id := eq_of_numbers (hl''.unique hl') (he''.unique he') (hp''.unique hp')
          (hbatch'.trans hbatch.symm)
        exact ⟨rfl, fun member hmem => isUnderstood_iff.2 (hmembers member hmem), hnodup, hgiven,
          hid ▸ hsets⟩
  | array items flaw =>
    rw [hcodec, read_array_eq_ok_iff rfl hrequired, schema_fields]
    constructor
    · rintro ⟨rfl, hlength, hsets⟩
      obtain ⟨dl, de, dp, rfl⟩ := List.length_eq_three.1 hlength
      obtain ⟨l, e, p, hl, he, hp, rfl⟩ := sets_items_iff.1 hsets
      exact ⟨.array hl he hp, rfl⟩
    · rintro ⟨hjson, hbatch⟩
      cases hjson with
      | array hl he hp =>
        exact ⟨rfl, rfl, sets_items_iff.2 ⟨_, _, _, hl, he, hp,
          eq_of_numbers rfl rfl rfl hbatch⟩⟩
  | _ =>
    constructor
    · intro h
      cases h
    · rintro ⟨h, -⟩
      cases h

theorem ofString_eq_ok_iff {text : String} {id : MessageId} : codec.ofString text = .ok id ↔
    ∃ d, Document.ofBytes (Utf8.encode text) = (d, none) ∧
      IsJson d id.ledger id.entry id.partition ∧ id.batch = noIndex := by
  rw [Codec.ofString_eq_ok_iff]
  exact exists_congr fun d => and_congr_right fun _ => read_eq_ok_iff

/-! ### From an id to its JSON text and back -/

theorem members_eq (id : MessageId) : schema.members id =
    [("ledgerId", .int id.ledger), ("entryId", .int id.entry),
      ("partitionIndex", .int id.partition)] := rfl

theorem isJson_of_perm {id : MessageId} (valid : id.Valid) {members : List (String × Value)}
    (h : members.Perm (schema.members id)) :
    IsJson (.object (ofMembers members) none) id.ledger id.entry id.partition := by
  have hperm : (ofMembers members).Perm [(some "ledgerId", ofValue (.int id.ledger)),
      (some "entryId", ofValue (.int id.entry)),
      (some "partitionIndex", ofValue (.int id.partition))] := by
    rw [ofMembers_eq_map]
    exact h.map _
  have hkeys : ∀ member ∈ ofMembers members, ∃ key, member.1 = some key ∧ key ∈ keys := by
    intro member hmem
    have hmem' := hperm.mem_iff.1 hmem
    simp only [List.mem_cons, List.not_mem_nil, or_false] at hmem'
    rcases hmem' with rfl | rfl | rfl
    · exact ⟨_, rfl, by decide⟩
    · exact ⟨_, rfl, by decide⟩
    · exact ⟨_, rfl, by decide⟩
  obtain ⟨hledger, hentry, hpartition, -⟩ := valid
  refine .object (fun member hmem => ?_) (List.perm_singleton.1 (hperm.filter _)) ?_
    (List.perm_singleton.1 (hperm.filter _)) ?_ (List.perm_singleton.1 (hperm.filter _)) ?_
  · obtain ⟨key, hkey, hmem⟩ := hkeys member hmem
    exact ⟨key, hkey, .inl hmem⟩
  · exact isInteger_ofValue (by omega) (by omega) ⟨Int.le_trans (by decide) hledger.1, hledger.2⟩
  · exact isInteger_ofValue (by omega) (by omega) ⟨Int.le_trans (by decide) hentry.1, hentry.2⟩
  · exact isInteger_ofValue (by omega) (by omega)
      ⟨Int.le_trans (by decide) hpartition.1, hpartition.2⟩

/-- **The JSON text of a valid id reads back** without the place in the batch, whatever the order of
its members. -/
theorem ofString_compact {id : MessageId} (valid : id.Valid) {members : List (String × Value)}
    (h : members.Perm (schema.members id)) :
    codec.ofString (Value.object members).compact = .ok (id.withBatch noIndex) := by
  have hexact : (Value.object members).IsExact := Value.haveExact_iff.2 fun member hmem => by
    have hmem' := h.mem_iff.1 hmem
    simp only [members_eq, List.mem_cons, List.not_mem_nil, or_false] at hmem'
    rcases hmem' with rfl | rfl | rfl <;> trivial
  exact ofString_eq_ok_iff.2 ⟨_, ofBytes_compact hexact, isJson_of_perm valid h, rfl⟩

/-- **The two forms of an id.** For every valid id the text reads back, with blanks around it too, and
no other valid id has it; and the JSON text reads back without the place in the batch, in whatever
order the members are written. Conversely an id that is read from a text is valid, and its own text
gives it again. -/
theorem text_and_json_readBack :
    (∀ id : MessageId, id.Valid →
      (∀ before after : String, (∀ c ∈ before.toList, isBlank c) → (∀ c ∈ after.toList, isBlank c) →
        ofText (before ++ id.toText ++ after) = .ok id) ∧
      (∀ other : MessageId, other.Valid → other.toText = id.toText → other = id) ∧
      codec.ofString (codec.write id).compact = .ok (id.withBatch noIndex) ∧
      ∀ members, members.Perm (schema.members id) →
        codec.ofString (Value.object members).compact = .ok (id.withBatch noIndex)) ∧
    ∀ (text : String) (id : MessageId), ofText text = .ok id →
      id.Valid ∧ ofText id.toText = .ok id := by
  constructor
  · intro id valid
    refine ⟨fun before after hbefore hafter => ?_, fun other valid' h => ?_,
      ofString_compact valid (.refl _), fun members h => ofString_compact valid h⟩
    · exact ofText_eq_ok_iff.2 (parse_append_toText_append valid hbefore hafter)
    · exact toText_injective valid' valid h
  · intro text id h
    have valid := valid_of_parse (ofText_eq_ok_iff.1 h)
    exact ⟨valid, ofText_eq_ok_iff.2 (parse_toText valid)⟩

/-- An id at the ends of its ranges, in a batch. -/
theorem text_and_json_readBack_extreme :
    ofText "\u2003\t9223372036854775807:0:-1:2147483647\u3000" =
      .ok ⟨0x7FFFFFFFFFFFFFFF, 0, -1, 0x7FFFFFFF⟩ ∧
    codec.ofString (codec.write ⟨0x7FFFFFFFFFFFFFFF, 0, -1, 0x7FFFFFFF⟩).compact =
      .ok ⟨0x7FFFFFFFFFFFFFFF, 0, -1, -1⟩ := by
  have valid : Valid ⟨0x7FFFFFFFFFFFFFFF, 0, -1, 0x7FFFFFFF⟩ :=
    ⟨by decide, by decide, by decide, by decide⟩
  obtain ⟨htext, -, hjson, -⟩ := text_and_json_readBack.1 _ valid
  exact ⟨htext "\u2003\t" "\u3000" (List.all_eq_true.1 rfl) (List.all_eq_true.1 rfl), hjson⟩

/-! ### Numbers out of bounds -/

/-- **When no reader makes an id with a number out of bounds**: when the text is no JSON form of an id,
or the numbers that it gives are in bounds. -/
theorem inBounds_of_read_iff (text : String) :
    (∀ id : MessageId, ofText text = .ok id ∨ codec.ofString text = .ok id →
      0 ≤ id.ledger ∧ 0 ≤ id.entry ∧ -1 ≤ id.partition ∧ -1 ≤ id.batch) ↔
    ∀ d l e p, Document.ofBytes (Utf8.encode text) = (d, none) → IsJson d l e p →
      0 ≤ l ∧ 0 ≤ e ∧ -1 ≤ p := by
  constructor
  · intro h d l e p hd hjson
    obtain ⟨hl, he, hp, -⟩ := h ⟨l, e, p, noIndex⟩
      (.inr (ofString_eq_ok_iff.2 ⟨d, hd, hjson, rfl⟩))
    exact ⟨hl, he, hp⟩
  · rintro h id (htext | hjson)
    · have valid := valid_of_parse (ofText_eq_ok_iff.1 htext)
      exact ⟨valid.ledger.1, valid.entry.1, valid.partition.1, valid.batch.1⟩
    · obtain ⟨d, hd, hjson, hbatch⟩ := ofString_eq_ok_iff.1 hjson
      obtain ⟨hl, he, hp⟩ := h d _ _ _ hd hjson
      exact ⟨hl, he, hp, Int.le_of_eq hbatch.symm⟩

/-- The members in another order, and one that is unknown. -/
theorem inBounds_of_read_object : ∀ d l e p,
    Document.ofBytes (Utf8.encode
      "\x7b\"entryId\":2,\"x\":[],\"partitionIndex\":-1,\"ledgerId\":1\x7d") = (d, none) →
    IsJson d l e p → 0 ≤ l ∧ 0 ≤ e ∧ -1 ≤ p := by
  refine (inBounds_of_read_iff _).1 fun id h => ?_
  rcases h with htext | hjson
  · have hnone : (ofText
        "\x7b\"entryId\":2,\"x\":[],\"partitionIndex\":-1,\"ledgerId\":1\x7d").toOption = none := by
      decide +kernel
    rw [htext] at hnone
    cases hnone
  · have hsome : codec.ofString
        "\x7b\"entryId\":2,\"x\":[],\"partitionIndex\":-1,\"ledgerId\":1\x7d" =
          .ok ⟨1, 2, -1, noIndex⟩ := by
      decide +kernel
    obtain rfl := Except.ok.inj (hjson.symm.trans hsome)
    decide

/-- A negative ledger is read from JSON. -/
theorem ofString_negative_ledger :
    codec.ofString "\x7b\"ledgerId\":-1,\"entryId\":0,\"partitionIndex\":-1\x7d" =
      .ok ⟨-1, 0, -1, noIndex⟩ ∧
    ¬ ∀ (text : String) (id : MessageId), ofText text = .ok id ∨ codec.ofString text = .ok id →
      0 ≤ id.ledger ∧ 0 ≤ id.entry ∧ -1 ≤ id.partition ∧ -1 ≤ id.batch := by
  have hread : codec.ofString "\x7b\"ledgerId\":-1,\"entryId\":0,\"partitionIndex\":-1\x7d" =
      .ok ⟨-1, 0, -1, noIndex⟩ := by decide +kernel
  exact ⟨hread, fun h => absurd (h _ _ (.inr hread)).1 (by decide)⟩

end BrokerAdmin.MessageId
