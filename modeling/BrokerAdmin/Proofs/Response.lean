import BrokerAdmin.Proofs.Batch.Framing
import BrokerAdmin.Proofs.Dict
import BrokerAdmin.Response

/-!
# What headers decide

A header may stand anywhere among the others, its name in any case, and it may be repeated. What an
answer carries depends on the values of a few names only, each in the order in which they were given:

* the id, the time of publication and the number of messages on the first value,
* a property on the last value of its header.

Two headers of different names never concern the same property, since names are read in lower case
and the time of publication and the mark of a batch have rules of their own. So it is enough to look
at one name at a time, and the order between names is of no consequence.

## Main definitions

* `Headers.values`: the values of a name.
* `Headers.property?`: what headers say about a property.
* `Headers.IsRead`: the names that count.

## Main results

* `Response.get?_baseProperties`: the properties that all messages share.
* `Response.property_precedence`: where a property of a message comes from.
* `Response.messages_congr`: answers whose headers agree name by name carry the same.
-/

namespace BrokerAdmin

open Result Wire

namespace Headers

/-! ### Values of a name -/

/-- The values of the headers with a name, in their order. The name is given in lower case; the
headers may have theirs in any case. -/
def values (headers : List (String × Bytes)) (name : String) : List Bytes :=
  (headers.filter (lower ·.1 = name)).map (·.2)

theorem values_eq_nil {headers : List (String × Bytes)} {name : String}
    (h : name ∉ headers.map (lower ·.1)) : values headers name = [] := by
  rw [values, List.map_eq_nil_iff, List.filter_eq_nil_iff]
  intro header hmem hname
  exact h (List.mem_map.2 ⟨header, hmem, by simpa using hname⟩)

/-- The first value of a name is the one that is found. -/
theorem get?_ofList (headers : List (String × Bytes)) (name : String) :
    (ofList headers).get? name = (values headers (lower name)).head? := by
  rw [get?, ofList, values, List.find?_map, List.head?_map, List.head?_filter, Option.map_map]
  rfl

/-- The last value of a name is the first one from behind. -/
theorem getLast?_values (headers : List (String × Bytes)) (name : String) :
    (values headers name).getLast? =
      ((ofList headers).reverse.find? (·.1 = name)).map (·.2) := by
  rw [← List.head?_reverse, values, ofList, ← List.map_reverse, ← List.map_reverse,
    ← List.filter_reverse, List.head?_map, List.head?_filter, List.find?_map, Option.map_map]
  rfl

/-- What headers say about a property: the last value of its header, and for the time of
publication, if there is none, the first value of the header of its own, unless that is empty. -/
def property? (headers : List (String × Bytes)) (key : String) : Option String :=
  ((values headers (lower Response.propertyHeader ++ key)).getLast?.or
    (if key = Message.publishTimeKey then
      (values headers (lower Response.publishTimeHeader)).head?.filter (!·.isEmpty)
    else none)).map Utf8.decodeLossy

/-- The names, in lower case, that decide what an answer carries. -/
inductive IsRead : String → Prop
  /-- The id of the entry. -/
  | messageId : IsRead (lower Response.messageIdHeader)
  /-- The time of publication. -/
  | publishTime : IsRead (lower Response.publishTimeHeader)
  /-- The number of messages. -/
  | batch : IsRead (lower Response.batchHeader)
  /-- A property, also the one without a name. -/
  | property (key : String) : IsRead (lower Response.propertyHeader ++ key)

end Headers

namespace Response

open Headers

/-! ### Properties in headers -/

theorem headerProperties_cons (header : String × Bytes) (headers : Headers) :
    headerProperties (header :: headers) =
      match dropFront (lower propertyHeader).toList header.1.toList with
      | some key => (String.ofList key, Utf8.decodeLossy header.2) :: headerProperties headers
      | none => headerProperties headers := by
  obtain ⟨name, value⟩ := header
  rw [headerProperties, List.filterMap_cons]
  dsimp only
  cases dropFront (lower propertyHeader).toList name.toList <;> rfl

/-- A property is found in the first header with its name. -/
theorem lookup_headerProperties (headers : Headers) (key : String) :
    (headerProperties headers).lookup key =
      (headers.find? (·.1 = lower propertyHeader ++ key)).map (Utf8.decodeLossy ·.2) := by
  have hname : ∀ (name : String) (rest : List Char),
      dropFront (lower propertyHeader).toList name.toList = some rest ↔
        name = lower propertyHeader ++ String.ofList rest := by
    intro name rest
    rw [dropFront_eq_some_iff, ← String.toList_inj, String.toList_append, String.toList_ofList]
  induction headers with
  | nil => rfl
  | cons header headers ih =>
    rw [headerProperties_cons, List.find?_cons]
    cases hdrop : dropFront (lower propertyHeader).toList header.1.toList with
    | none =>
      have hne : header.1 ≠ lower propertyHeader ++ key := by
        intro heq
        rw [(hname header.1 key.toList).2 (by rw [heq, String.ofList_toList])] at hdrop
        cases hdrop
      simp [hne, ih]
    | some rest =>
      rw [(hname header.1 rest).1 hdrop, Dict.lookup_cons]
      by_cases hkey : key = String.ofList rest
      · simp [hkey]
      · simp [hkey, Ne.symm hkey, ih]

/-- **The properties that all messages share.** -/
theorem get?_baseProperties (headers : List (String × Bytes)) (key : String) :
    (baseProperties (.ofList headers)).get? key = property? headers key := by
  have hown : (headerProperties (.ofList headers)).reverse.lookup key =
      ((values headers (lower propertyHeader ++ key)).getLast?).map Utf8.decodeLossy := by
    rw [headerProperties, ← List.filterMap_reverse, ← headerProperties, lookup_headerProperties,
      getLast?_values, Option.map_map]
    rfl
  have htime : (publishTimeProperty (.ofList headers)).reverse.lookup key =
      (if key = Message.publishTimeKey then
        (values headers (lower publishTimeHeader)).head?.filter (!·.isEmpty)
      else none).map Utf8.decodeLossy := by
    rw [publishTimeProperty, get?_ofList]
    cases (values headers (lower publishTimeHeader)).head? with
    | none => simp
    | some value =>
      cases value with
      | nil => simp
      | cons b bytes =>
        simp only [List.isEmpty_cons, Bool.false_eq_true, if_false, List.reverse_singleton,
          Dict.lookup_cons, List.lookup_nil, Option.filter_some, Bool.not_false, if_true]
        split <;> rfl
  rw [baseProperties, Dict.get?_ofList, List.reverse_append, List.lookup_append, hown, htime,
    property?, Option.map_or]

/-! ### Messages -/

/-- An answer without a number of messages carries one, with its body as payload. -/
theorem messages_of_values_nil {headers : List (String × Bytes)}
    (h : values headers (lower batchHeader) = []) (topic : String) (status : Status) (body : Bytes) :
    messages topic ⟨status, .ofList headers, body⟩ =
      (messageId (.ofList headers)).map fun id =>
        [⟨topic, id, body, baseProperties (.ofList headers)⟩] := by
  rw [messages]
  simp only [get?_ofList, h, List.head?_nil]
  cases messageId (.ofList headers) <;> rfl

/-- An answer with a number of messages carries a batch, which the first number is for. -/
theorem messages_of_values_cons {headers : List (String × Bytes)} {count : Bytes}
    {others : List Bytes} (h : values headers (lower batchHeader) = count :: others) (topic : String)
    (status : Status) (body : Bytes) :
    messages topic ⟨status, .ofList headers, body⟩ =
      messageId (.ofList headers) >>= fun id =>
        Batch.decode topic id body
          ((baseProperties (.ofList headers)).insert batchHeader (Utf8.decodeLossy count))
          (Utf8.decodeLossy count) := by
  rw [messages]
  simp only [get?_ofList, h, List.head?_cons]

/-- An answer carries no message exactly when it is a batch of none, whatever its body. -/
theorem messages_eq_ok_nil_iff {topic : String} {response : Response} :
    response.messages topic = .ok [] ↔
      (∃ id, messageId response.headers = .ok id) ∧
        ∃ count, response.headers.get? batchHeader = some count ∧
          Batch.parseCount (Utf8.decodeLossy count) = .ok 0 := by
  rw [messages, bind_eq_ok_iff]
  cases hcount : response.headers.get? batchHeader with
  | none => simp
  | some count =>
    simp only [Batch.decode_eq_ok_nil_iff, exists_and_right, Option.some.injEq, exists_eq_left']

/-- **Where a property of a message comes from.** Without a number of messages, a property is what
the headers say. In a batch the record of a message comes first, with the last value it gives, then
the mark of the batch, which is the number as it was sent, and then the headers. Only the record that
stands at the place of the message counts. -/
theorem property_precedence {topic : String} {status : Status} {headers : List (String × Bytes)}
    {body : Bytes} {found : List Message}
    (h : messages topic ⟨status, .ofList headers, body⟩ = .ok found) :
    (values headers (lower batchHeader) = [] →
      ∀ message ∈ found, ∀ key, message.properties.get? key = property? headers key) ∧
    ∀ count others, values headers (lower batchHeader) = count :: others →
      ∃ records front rest, body = front ++ rest ∧ Sequence Batch.IsRecord records front ∧
        records.length = found.length ∧
        ∀ (i : Nat) record message, records[i]? = some record → found[i]? = some message →
          ∀ key, message.properties.get? key =
            ((record.metadata.properties.reverse.lookup key).or
              (if key = batchHeader then some (Utf8.decodeLossy count) else none)).or
                (property? headers key) := by
  constructor
  · intro hvalues message hmessage key
    rw [messages_of_values_nil hvalues, map_eq_ok_iff] at h
    obtain ⟨id, -, rfl⟩ := h
    obtain rfl := List.mem_singleton.1 hmessage
    exact get?_baseProperties headers key
  · intro count others hvalues
    rw [messages_of_values_cons hvalues, bind_eq_ok_iff] at h
    obtain ⟨id, -, h⟩ := h
    obtain ⟨n, records, front, rest, -, -, -, hfront, hbody, rfl⟩ := Batch.decode_eq_ok_iff.1 h
    refine ⟨records, front, rest, hbody, hfront, (Batch.length_toMessages _ _ _ _ _).symm, ?_⟩
    intro i record message hrecord hmessage key
    rw [Batch.getElem?_toMessages, hrecord, Option.map_some, Option.some.injEq] at hmessage
    obtain rfl := hmessage
    rw [Batch.Record.toMessage, Dict.get?_overlay, Dict.get?_insert, get?_baseProperties,
      Option.or_assoc]
    by_cases hkey : key = batchHeader
    · simp [hkey]
    · simp [hkey, Ne.symm hkey]

/-- Headers that give a property twice and one without a name, and the number of a batch with a
blank. -/
def mixedHeaders : List (String × Bytes) := [
  ("X-Pulsar-Property-k", Utf8.encode "1"), ("X-Pulsar-Num-Batch-Message", Utf8.encode " 2"),
  ("x-pulsar-property-", Utf8.encode "bare"), ("X-Pulsar-Message-ID", Utf8.encode "7:8"),
  ("X-PULSAR-PROPERTY-K", Utf8.encode "2"), ("X-Pulsar-Publish-Time", Utf8.encode "now")]

/-- A record with a property, and one without. -/
def mixedBody : Bytes :=
  Batch.frame [0x0A, 6, 0x0A, 1, 0x6B, 0x12, 1, 0x61, 0x18, 0] [] ++ Batch.frame [0x18, 1] [0xFF]

/-- The record of the first message has a property of its own, and the second message has that of the
last header. -/
theorem property_precedence_mixed :
    ∃ first second record record' front rest,
      messages "t" ⟨200, .ofList mixedHeaders, mixedBody⟩ = .ok [first, second] ∧
      mixedBody = front ++ rest ∧ Sequence Batch.IsRecord [record, record'] front ∧
      (∀ key, first.properties.get? key =
        ((record.metadata.properties.reverse.lookup key).or
          (if key = batchHeader then some " 2" else none)).or (property? mixedHeaders key)) ∧
      first.properties.get? "k" = some "a" ∧ second.properties.get? "k" = some "2" ∧
      second.properties.get? batchHeader = some " 2" ∧
      second.properties.get? "" = some "bare" ∧ second.properties.get? "publish-time" = some "now" ∧
      second.properties.get? "K" = none := by
  have hread : messages "t" ⟨200, .ofList mixedHeaders, mixedBody⟩ = .ok [
      ⟨"t", ⟨7, 8, -1, 0⟩, [], .ofList [("publish-time", "now"), ("k", "a"), ("", "bare"),
        (batchHeader, " 2")]⟩,
      ⟨"t", ⟨7, 8, -1, 1⟩, [0xFF], .ofList [("publish-time", "now"), ("k", "2"), ("", "bare"),
        (batchHeader, " 2")]⟩] := by decide +kernel
  obtain ⟨records, front, rest, hbody, hfront, hlen, hproperties⟩ :=
    (property_precedence hread).2 (Utf8.encode " 2") [] (by decide +kernel)
  obtain ⟨record, record', rfl⟩ := List.length_eq_two.1 hlen
  have hcount : Utf8.decodeLossy (Utf8.encode " 2") = " 2" := by decide +kernel
  have hfirst := hproperties 0 _ _ rfl rfl
  rw [hcount] at hfirst
  exact ⟨_, _, record, record', front, rest, hread, hbody, hfront, hfirst, by decide +kernel,
    by decide +kernel, by decide +kernel, by decide +kernel, by decide +kernel, by decide +kernel⟩

/-- **Answers whose headers agree name by name carry the same**, or fail alike. So headers of
different names may change places, their names may be in any case, and other headers are passed
over. -/
theorem messages_congr {headers headers' : List (String × Bytes)}
    (h : ∀ name, IsRead name → values headers name = values headers' name) (topic : String)
    (status status' : Status) (body : Bytes) :
    messages topic ⟨status, .ofList headers, body⟩ =
      messages topic ⟨status', .ofList headers', body⟩ := by
  have hid : messageId (.ofList headers) = messageId (.ofList headers') := by
    rw [messageId, messageId, get?_ofList, get?_ofList, h _ .messageId]
  have hbase : baseProperties (.ofList headers) = baseProperties (.ofList headers') := by
    refine Dict.ext_get? fun key => ?_
    rw [get?_baseProperties, get?_baseProperties, property?, property?, h _ (.property key),
      h _ .publishTime]
  cases hvalues : values headers (lower batchHeader) with
  | nil =>
    rw [messages_of_values_nil hvalues, messages_of_values_nil ((h _ .batch).symm.trans hvalues),
      hid, hbase]
  | cons count others =>
    rw [messages_of_values_cons hvalues,
      messages_of_values_cons ((h _ .batch).symm.trans hvalues), hid, hbase]

/-- The same headers with other names between them, in another order and in other cases. -/
def shuffledHeaders : List (String × Bytes) := [
  ("Content-Type", Utf8.encode "text/plain"), ("x-pulsar-message-id", Utf8.encode "7:8"),
  ("X-PULSAR-PROPERTY-K", Utf8.encode "1"), ("X-Pulsar-Publish-Time", Utf8.encode "now"),
  ("x-pulsar-property-k", Utf8.encode "2"), ("X-Pulsar-Property-", Utf8.encode "bare"),
  ("x-pulsar-num-batch-message", Utf8.encode " 2")]

/-- All names that are read begin alike. -/
theorem head?_of_isRead {name : String} (h : IsRead name) : name.toList.head? = some 'x' := by
  cases h with
  | messageId => decide
  | publishTime => decide
  | batch => decide
  | property key =>
    have hprefix : (lower propertyHeader).toList.head? = some 'x' := by decide
    rw [String.toList_append, List.head?_append, hprefix, Option.some_or]

/-- Order, cases and other headers make no difference to a batch. -/
theorem messages_congr_shuffled :
    (∀ name, IsRead name → values mixedHeaders name = values shuffledHeaders name) ∧
      messages "t" ⟨200, .ofList mixedHeaders, mixedBody⟩ =
        messages "t" ⟨404, .ofList shuffledHeaders, mixedBody⟩ := by
  have hnames : ∀ name ∈ (mixedHeaders ++ shuffledHeaders).map (lower ·.1),
      name = "content-type" ∨ values mixedHeaders name = values shuffledHeaders name := by
    decide +kernel
  have hagree : ∀ name, IsRead name → values mixedHeaders name = values shuffledHeaders name := by
    intro name hread
    by_cases hmem : name ∈ (mixedHeaders ++ shuffledHeaders).map (lower ·.1)
    · refine (hnames name hmem).resolve_left ?_
      rintro rfl
      exact absurd (head?_of_isRead hread) (by decide)
    · rw [List.map_append, List.mem_append, not_or] at hmem
      rw [values_eq_nil hmem.1, values_eq_nil hmem.2]
  exact ⟨hagree, messages_congr hagree "t" 200 404 mixedBody⟩

end Response

end BrokerAdmin
