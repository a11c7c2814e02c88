import BrokerAdmin.CommandLine.Run
import BrokerAdmin.Proofs.Base64
import BrokerAdmin.Proofs.Json.ReadBack
import BrokerAdmin.Proofs.MessageId

/-!
# The JSON form of a message loses nothing

A message is shown as an object of four members. Two of them are texts that stand for something else:
the id, which is read from its text, and the payload, which is decoded from Base64. All four can be
found again, so the JSON form of a message belongs to no other one; and since JSON texts are read back
as the values that were printed, up to the order of members, neither does its text.

## Main definitions

* `Message.Shows`: what a JSON value shows of a message.

## Main results

* `Message.shows_toJson`, `Message.Shows.unique`: the JSON form shows the message and no other one.
* `Message.toJson_lossless`: messages, their JSON forms and the texts of these.
-/

namespace BrokerAdmin

open Json Json.Codec

namespace Message

/-- A JSON value shows a message: the topic, a text from which the id is read, a text from which the
payload is decoded, and an object whose members are the properties. -/
structure Shows (v : Value) (m : Message) : Prop where
  /-- The topic is a text as it stands. -/
  topic : v.get? "topic" = some (.string m.topic)
  /-- The id is read from its text. -/
  id : ∃ text, v.get? "id" = some (.string text) ∧ MessageId.ofText text = .ok m.id
  /-- The payload is decoded from its text. -/
  payload : ∃ text, v.get? "payload" = some (.string text) ∧ Base64.decode text = some m.payload
  /-- The properties are members, each of them a text. -/
  properties : v.get? "properties" =
    some (.object (m.properties.toList.map fun p => (p.1, .string p.2)))

/-- **A JSON value shows one message** at most. -/
theorem Shows.unique {v : Value} {m m' : Message} (h : Shows v m) (h' : Shows v m') : m = m' := by
  obtain ⟨topic, id, payload, properties⟩ := m
  obtain ⟨topic', id', payload', properties'⟩ := m'
  obtain ⟨text, htext, hid⟩ := h.id
  obtain ⟨text', htext', hid'⟩ := h'.id
  obtain ⟨digits, hdigits, hpayload⟩ := h.payload
  obtain ⟨digits', hdigits', hpayload'⟩ := h'.payload
  have hstring : ∀ {s t : String} {key : String}, v.get? key = some (.string s) →
      v.get? key = some (.string t) → s = t := fun hs ht =>
    Value.string.inj (Option.some.inj (hs.symm.trans ht))
  obtain rfl : topic = topic' := hstring h.topic h'.topic
  obtain rfl := hstring htext htext'
  obtain rfl := hstring hdigits hdigits'
  obtain rfl : id = id' := Except.ok.inj (hid.symm.trans hid')
  obtain rfl : payload = payload' := Option.some.inj (hpayload.symm.trans hpayload')
  have hmembers := Value.object.inj (Option.some.inj (h.properties.symm.trans h'.properties))
  have hinjective : Function.Injective fun p : String × String => (p.1, Value.string p.2) := by
    rintro ⟨key, value⟩ ⟨key', value'⟩ heq
    obtain ⟨hkey, hvalue⟩ := Prod.mk.inj heq
    exact Prod.ext hkey (Value.string.inj hvalue)
  obtain rfl : properties = properties' := Dict.ext (List.map_injective_iff.2 hinjective hmembers)
  rfl

/-- Properties are written in the order of their keys. -/
theorem regular_properties (properties : Dict String) :
    ((Codec.string.dict).write properties).Regular := by
  refine ⟨List.pairwise_map.2 properties.sorted, Value.haveRegular_iff.2 ?_⟩
  exact List.forall_mem_map.2 fun p _ => trivial

theorem sorted_toJson (m : Message) : m.toJson.sorted = .ofMembers [
    ("topic", .string m.topic), ("id", .string m.id.toText),
    ("payload", .string (Base64.encode m.payload)),
    ("properties", (Codec.string.dict).write m.properties)] := by
  simp only [toJson, Value.sorted, Value.sortedMembers, (regular_properties m.properties).sorted_eq]

/-- **The JSON form shows the message**, in whatever order its members stand. -/
theorem shows_toJson {m : Message} (valid : m.id.Valid) : Shows m.toJson.sorted m := by
  rw [sorted_toJson]
  exact {
    topic := Value.get?_ofMembers _ _
    id := ⟨m.id.toText, Value.get?_ofMembers _ _,
      MessageId.ofText_eq_ok_iff.2 (MessageId.parse_toText valid)⟩
    payload := ⟨Base64.encode m.payload, Value.get?_ofMembers _ _, Base64.decode_encode m.payload⟩
    properties := Value.get?_ofMembers _ _ }

/-- The JSON forms of valid messages differ. -/
theorem toJson_injective {m m' : Message} (valid : m.id.Valid) (valid' : m'.id.Valid)
    (h : m.toJson.sorted = m'.toJson.sorted) : m = m' :=
  (h ▸ shows_toJson valid : Shows m'.toJson.sorted m).unique (shows_toJson valid')

/-! ### Texts of messages -/

/-- The keys of the JSON form. -/
theorem nodup_keys : ["topic", "id", "payload", "properties"].Nodup := by decide

theorem definite_toJson (m : Message) : m.toJson.Definite := by
  refine ⟨nodup_keys, Value.haveDefinite_iff.2 ?_⟩
  simp only [List.forall_mem_cons, List.not_mem_nil, false_implies, implies_true, and_true]
  exact ⟨trivial, trivial, trivial, (regular_properties m.properties).definite⟩

theorem depth_properties_le (properties : Dict String) :
    ((Codec.string.dict).write properties).depth ≤ 1 :=
  Nat.succ_le_succ (Value.depthOfMembers_le_iff.2 (List.forall_mem_map.2 fun _ _ => Nat.le_refl 0))

theorem depth_toJson_le (m : Message) : m.toJson.depth ≤ 2 := by
  refine Nat.succ_le_succ (Value.depthOfMembers_le_iff.2 ?_)
  simp only [List.forall_mem_cons, List.not_mem_nil, false_implies, implies_true, and_true]
  exact ⟨Nat.zero_le 1, Nat.zero_le 1, Nat.zero_le 1, depth_properties_le m.properties⟩

/-- Several messages are shown as an array. -/
theorem definite_array (messages : List Message) :
    (Value.array (messages.map toJson)).Definite :=
  Value.areDefinite_iff.2 (List.forall_mem_map.2 fun m _ => m.definite_toJson)

theorem depth_array_le (messages : List Message) :
    (Value.array (messages.map toJson)).depth ≤ 3 :=
  Nat.succ_le_succ (Value.depthOfItems_le_iff.2 (List.forall_mem_map.2 fun m _ => m.depth_toJson_le))

/-- What a command prints for a JSON value says the value. -/
theorem hasText_output {v : Value} (definite : v.Definite) :
    v.HasText (Utf8.encode (CommandLine.Output.json v).toText) :=
  definite.hasText_pretty (by simp [AreBlank])

/-- A text of a value is read as the value in the order of the keys. -/
theorem ofBytes_of_hasText {v : Value} (definite : v.Definite) (hdepth : v.depth ≤ maxDepth)
    {text : Bytes} (htext : v.HasText text) : Codec.value.ofBytes text = .ok v.sorted := by
  have regular := definite.regular_sorted
  have hsorted : (Codec.value.write v.sorted).sorted.HasText text :=
    (regular.sorted_eq.symm ▸ htext.sorted definite : v.sorted.sorted.HasText text)
  exact (restores_value regular).ofBytes_eq hsorted (definite.depth_sorted_le hdepth)

/-- **The JSON form of a message loses nothing.** Messages with valid ids whose JSON forms are the same
up to the order of members are the same. What is printed for a message, and every other text
that says the same, is read as a JSON value that shows the message, and what is printed for several
messages is read as an array of values that show one each. -/
theorem toJson_lossless :
    (∀ m m' : Message, m.id.Valid → m'.id.Valid → m.toJson.sorted = m'.toJson.sorted → m = m') ∧
    (∀ m : Message, m.id.Valid →
      m.toJson.HasText (Utf8.encode m.toJson.compact) ∧
      m.toJson.HasText (Utf8.encode (CommandLine.Output.json m.toJson).toText) ∧
      ∀ text, m.toJson.HasText text → ∃ v, Codec.value.ofBytes text = .ok v ∧ Shows v m) ∧
    ∀ messages : List Message, (∀ m ∈ messages, m.id.Valid) → ∃ values,
      Codec.value.ofString (CommandLine.Output.json (.array (messages.map toJson))).toText =
        .ok (.array values) ∧ List.Forall₂ Shows values messages := by
  refine ⟨fun m m' => toJson_injective, fun m valid => ?_, fun messages valid => ?_⟩
  · have hdepth : m.toJson.depth ≤ maxDepth := Nat.le_trans m.depth_toJson_le (by decide)
    refine ⟨m.definite_toJson.hasText_compact, hasText_output m.definite_toJson, fun text htext => ?_⟩
    exact ⟨_, ofBytes_of_hasText m.definite_toJson hdepth htext, shows_toJson valid⟩
  · have hdepth : (Value.array (messages.map toJson)).depth ≤ maxDepth :=
      Nat.le_trans (depth_array_le messages) (by decide)
    have hread := ofBytes_of_hasText (definite_array messages) hdepth
      (hasText_output (definite_array messages))
    rw [Value.sorted, Value.sortedItems_eq_map, List.map_map] at hread
    refine ⟨_, hread, ?_⟩
    rw [List.forall₂_map_left_iff, List.forall₂_same]
    exact fun m hm => shows_toJson (valid m hm)

/-- A message whose payload is no text, with a property whose key and value are to be escaped. -/
def escapedMessage : Message :=
  ⟨"persistent://a/b/c", ⟨7, 0, -1, 3⟩, [0xFF, 0x00], .ofList [("\"\u00e9\\", "\x01\n")]⟩

/-- What is printed for this message, and what is read from it. -/
theorem toJson_lossless_escaped :
    escapedMessage.id.Valid ∧
    (CommandLine.Output.json escapedMessage.toJson).toText =
      "\x7b\n  \"topic\": \"persistent://a/b/c\",\n  \"id\": \"7:0:-1:3\",\n" ++
      "  \"payload\": \"/wA=\",\n  \"properties\": \x7b\n" ++
      "    \"\\\"\u00e9\\\\\": \"\\u0001\\n\"\n  \x7d\n\x7d\n" ∧
    ∃ v, Codec.value.ofBytes (Utf8.encode (CommandLine.Output.json escapedMessage.toJson).toText) =
      .ok v ∧ Shows v escapedMessage := by
  have valid : escapedMessage.id.Valid := ⟨by decide, by decide, by decide, by decide⟩
  obtain ⟨-, htext, hread⟩ := toJson_lossless.2.1 escapedMessage valid
  exact ⟨valid, by decide +kernel, hread _ htext⟩

end Message

end BrokerAdmin
