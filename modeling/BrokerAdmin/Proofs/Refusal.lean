import BrokerAdmin.Proofs.Json.Grammar.Sound
import BrokerAdmin.Proofs.Json.Record
import BrokerAdmin.Refusal

/-!
# The reason that a server gives

A body that is a JSON object with one member `reason` says why a request was refused, and what it says
is read as it stands. The rest of the object may be almost anything: blanks between the tokens,
escapes in the texts, and other members with any values, however deep they nest. Such values are
passed over without being looked at more closely than the grammar does. Keys are looked at, since any
of them might be the one that is asked for, so an object is only read if all its keys are texts.

A body of another form is read as well: an array that holds a text and nothing else. A record may be
given by its items in order, and this one has a single field.

## Main definitions

* `Refusal.StatesReason`: the bodies that say why.
* `Refusal.HasTextKeys`: objects whose keys are texts.

## Main results

* `Refusal.ofBytes_eq_ok_iff`: which bodies are read.
-/

namespace BrokerAdmin.Refusal

open Json Document Json.Field Schema

/-! ### Bodies -/

/-- A body says why: it is the text of an object that has the key `reason` once, with a text. -/
def StatesReason (r : String) (body : Bytes) : Prop :=
  ∃ members, SpacedText (.object members none) body ∧ Gives members "reason" (.string (some r))

/-- A body is the text of an object whose keys are texts. A key is none if it holds half a pair of
escapes without the other half, or bytes that are no UTF-8. -/
def HasTextKeys (body : Bytes) : Prop :=
  ∃ members, SpacedText (.object members none) body ∧ ∀ member ∈ members, member.1.isSome = true

/-- A body is an array that holds a text and nothing else. -/
def ListsReason (r : String) (body : Bytes) : Prop :=
  SpacedText (.array [.string (some r)] none) body

/-! ### Which bodies are read -/

/-- The only field of the record. -/
def reasonField : Json.Field String := .plain "reason" .required .string (fun r => r) fun _ r => r

theorem mem_fields_iff {field : Json.Field String} : field ∈ schema.fields ↔ field = reasonField :=
  List.mem_singleton

theorem nodup_names : (schema.fields.map Json.Field.name).Nodup := List.nodup_singleton "reason"

theorem required_of_mem : ∀ field ∈ schema.fields, field.presence = .required := by
  intro field hfield
  obtain rfl := mem_fields_iff.1 hfield
  rfl

theorem find?_eq_none_of_ne {key : String} (h : key ≠ "reason") :
    schema.fields.find? (·.name = key) = none :=
  find?_eq_none_iff.2 fun hmem => h (List.mem_singleton.1 hmem)

/-- What is set from members that give the reason once is the reason. -/
theorem eq_of_sets {room : Nat} {members : List (Option String × Document)} {d : Document}
    {r : String} (hgives : Gives members "reason" d)
    (hnodup : ((schema.given members).map (·.1.name)).Nodup)
    (hsets : Sets room (schema.given members) schema.blank r) : d = .string (some r) := by
  have hread : Codec.string.read room d = .ok r :=
    read_of_gives nodup_names hsets hnodup (mem_fields_iff.2 rfl) hgives (fun _ _ => rfl)
      fun field hfield hne => absurd (congrArg Json.Field.name (mem_fields_iff.1 hfield)) hne
  exact Codec.read_string_eq_ok_iff.1 hread

/-- **Which objects are read**: those without flaws that give the reason once, with a text. -/
theorem read_object_eq_ok_iff {room : Nat} {members : List (Option String × Document)}
    {flaws : Option Flaws} {r : String} :
    schema.read (room + 1) (.object members flaws) = .ok r ↔ flaws = none ∧
      (∀ member ∈ members, schema.IsUnderstood member) ∧
      Gives members "reason" (.string (some r)) := by
  rw [Schema.read_object_eq_ok_iff rfl]
  constructor
  · rintro ⟨hflaws, hunderstood, hnodup, hrequired, hsets⟩
    obtain ⟨d, hgives⟩ := (nodup_given_iff nodup_names required_of_mem).1 ⟨hnodup, hrequired⟩
      reasonField (mem_fields_iff.2 rfl)
    obtain rfl := eq_of_sets hgives hnodup hsets
    exact ⟨hflaws, hunderstood, hgives⟩
  · rintro ⟨hflaws, hunderstood, hgives⟩
    have hfields : ∀ field ∈ schema.fields, Gives members field.name (.string (some r)) := by
      intro field hfield
      obtain rfl := mem_fields_iff.1 hfield
      exact hgives
    obtain ⟨hnodup, hrequired⟩ := (nodup_given_iff nodup_names required_of_mem).2
      fun field hfield => ⟨_, hfields field hfield⟩
    obtain ⟨r', hsets⟩ : ∃ r', Sets room (schema.given members) schema.blank r' :=
      exists_sets_of_gives (fun field hfield => ⟨_, _, hfields field hfield, by
        obtain rfl := mem_fields_iff.1 hfield
        exact read_plain_eq_ok_iff.2 ⟨r, Codec.read_string_eq_ok_iff.2 rfl, rfl⟩⟩) _
    obtain rfl := Option.some.inj (Document.string.inj (eq_of_sets hgives hnodup hsets))
    exact ⟨hflaws, hunderstood, hnodup, hrequired, hsets⟩

/-- **Which arrays are read**: those without flaws whose only item is a text. -/
theorem read_array_eq_ok_iff {room : Nat} {items : List Document} {flaw : Option Flaw} {r : String} :
    schema.read (room + 1) (.array items flaw) = .ok r ↔
      flaw = none ∧ items = [.string (some r)] := by
  have hneeded : ∀ field ∈ schema.fields, field.presence ≠ .optional := fun field hfield => by
    rw [required_of_mem field hfield]
    decide
  have hsets : ∀ {d}, Sets room [(reasonField, d)] "" r ↔ d = .string (some r) := by
    intro d
    constructor
    · rintro (_ | ⟨hset, ⟨⟩⟩)
      obtain ⟨s, hread, rfl⟩ := read_plain_eq_ok_iff.1 hset
      exact Codec.read_string_eq_ok_iff.1 hread
    · rintro rfl
      exact .cons (read_plain_eq_ok_iff.2 ⟨r, Codec.read_string_eq_ok_iff.2 rfl, rfl⟩) .nil
  rw [Schema.read_array_eq_ok_iff rfl hneeded]
  refine and_congr_right fun _ => ?_
  constructor
  · rintro ⟨hlength, h⟩
    obtain ⟨d, rfl⟩ := List.length_eq_one_iff.1 hlength
    rw [hsets.1 h]
  · rintro rfl
    exact ⟨rfl, hsets.2 rfl⟩

/-- A text is that of one document. -/
theorem eq_of_spacedText {d d' : Document} {body : Bytes} (h : SpacedText d body)
    (h' : SpacedText d' body) : d = d' := by
  have heq := (ofBytes_eq_iff.2 h).1.symm.trans (ofBytes_eq_iff.2 h').1
  exact (Prod.mk.inj heq).1

/-- Members with texts as keys are understood, if they have no flaws. -/
theorem isUnderstood_of_isSome {members : List (Option String × Document)}
    (hkeys : ∀ member ∈ members, member.1.isSome = true) (h : skipMembers members = .ok ()) :
    ∀ member ∈ members, schema.IsUnderstood member := by
  intro member hmember
  obtain ⟨key, hkey⟩ := Option.isSome_iff_exists.1 (hkeys member hmember)
  exact ⟨key, hkey, fun _ => skipMembers_eq_ok_iff.1 h member hmember⟩

/-- Understood members that give the reason have no flaws. -/
theorem skipMembers_of_understood {members : List (Option String × Document)} {r : String}
    (h : ∀ member ∈ members, schema.IsUnderstood member)
    (hgives : Gives members "reason" (.string (some r))) : skipMembers members = .ok () := by
  refine skipMembers_eq_ok_iff.2 fun member hmember => ?_
  obtain ⟨key, hkey, hskip⟩ := h member hmember
  by_cases hreason : key = "reason"
  · have heq : member.2 = .string (some r) :=
      hgives.eq_of_mem (by rw [← hreason, ← hkey]; exact hmember)
    rw [heq]
    rfl
  · exact hskip (find?_eq_none_of_ne hreason)

/-- **Which bodies are read**: those that state a reason and have texts as keys, and those that list
a reason. -/
theorem ofBytes_eq_ok_iff {body : Bytes} {r : String} :
    schema.codec.ofBytes body = .ok r ↔
      (StatesReason r body ∧ HasTextKeys body) ∨ ListsReason r body := by
  rw [Codec.ofBytes_eq_ok_iff]
  constructor
  · rintro ⟨d, hbody, hread⟩
    cases d with
    | object members flaws =>
      obtain ⟨rfl, hunderstood, hgives⟩ := read_object_eq_ok_iff.1 hread
      have hskip := skip_object_eq_ok_iff.2 ⟨skipMembers_of_understood hunderstood hgives, rfl⟩
      have htext := ofBytes_eq_iff.1 ⟨hbody, hskip⟩
      refine .inl ⟨⟨members, htext, hgives⟩, members, htext, fun member hmember => ?_⟩
      obtain ⟨key, hkey, -⟩ := hunderstood member hmember
      exact Option.isSome_of_eq_some hkey
    | array items flaw =>
      obtain ⟨rfl, rfl⟩ := read_array_eq_ok_iff.1 hread
      exact .inr (ofBytes_eq_iff.1 ⟨hbody, rfl⟩)
    | _ => cases hread
  · rintro (⟨⟨members, hbody, hgives⟩, members', hbody', hkeys⟩ | hbody)
    · obtain ⟨rfl, -⟩ := Document.object.inj (eq_of_spacedText hbody hbody')
      obtain ⟨hdocument, hskip⟩ := ofBytes_eq_iff.2 hbody
      exact ⟨_, hdocument, read_object_eq_ok_iff.2 ⟨rfl,
        isUnderstood_of_isSome hkeys (skip_object_eq_ok_iff.1 hskip).1, hgives⟩⟩
    · exact ⟨_, (ofBytes_eq_iff.2 hbody).1, read_array_eq_ok_iff.2 ⟨rfl, rfl⟩⟩

/-- A body that is read says why, whatever the status. -/
theorem reason_of_ofBytes {body : Bytes} {r : String} (h : schema.codec.ofBytes body = .ok r)
    (status : Status) : reason status body = r := by
  rw [reason, h]

/-- An object that is read states the reason, and its keys are texts. -/
theorem states_of_ofBytes {r : String} {body : Bytes} (h : schema.codec.ofBytes body = .ok r)
    (hbrace : (skipBlanks body).head? = some 0x7B) : StatesReason r body ∧ HasTextKeys body := by
  rcases ofBytes_eq_ok_iff.1 h with hstates | hlists
  · exact hstates
  · cases hlists with
    | mk hbefore htext _ =>
      rw [skipBlanks_append hbefore] at hbrace
      cases htext
      rw [List.cons_append, skipBlanks_of_starts ⟨rfl, by decide⟩] at hbrace
      cases hbrace

end BrokerAdmin.Refusal
