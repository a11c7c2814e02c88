import BrokerAdmin.BrokerStats
import BrokerAdmin.Json.Print
import BrokerAdmin.Proofs.Json.Leftovers

/-!
# Nothing in a report is lost

A load report and the statistics of an allocator have typed fields for what is looked at often, and
keep everything else as it is. Which member goes where is said here key by key and without a reader:
a typed field has the value of its key, by the rule for its kind, and every other key is kept with
the value of its last document. The written form has both again. The keys are said once more in full,
so a field under a wrong key would show.

## Main definitions

* `FieldKind`: what documents say for a kind of field, and how it is written.
* `FieldKind.Carries`: a field has the value of its key and is written under it.
* `KeepsUnknown`: what becomes of all keys that are no fields.
* `LoadReport.Reflects`, `AllocatorStats.Reflects`: a record has all that members of an object say.

## Main results

* `LoadReport.reflects_of_ofBytes`, `AllocatorStats.reflects_of_ofBytes`: what is read from a text.
* `BrokerStats.nothing_lost`: nothing is lost from the text to the written form.
-/

namespace BrokerAdmin

open Json Json.Document Json.Field Result

variable {α : Type}

namespace ResourceUsage

/-- A document gives a usage: by two numbers among the members of an object, which may be missing, or
by up to two items of an array. -/
inductive IsJson : Document → ResourceUsage → Prop
  /-- Each of the numbers is zero unless it is given. -/
  | object {members : List (Option String × Document)} {u : ResourceUsage} :
      HasValue members "usage" IsNumber (.zero false) u.usage →
      HasValue members "limit" IsNumber (.zero false) u.limit → IsJson (.object members none) u
  /-- No number is given. -/
  | neither : IsJson (.array [] none) {}
  /-- Only what is used is given. -/
  | usage {d : Document} {x : Binary64} : d.IsNumber x → IsJson (.array [d] none) ⟨x, .zero false⟩
  /-- Both numbers are given. -/
  | both {d e : Document} {x y : Binary64} : d.IsNumber x → e.IsNumber y →
      IsJson (.array [d, e] none) ⟨x, y⟩

theorem owns_usage : schema.Owns "usage" .float usage where
  find? := ⟨_, _, fun _ _ => rfl, rfl⟩
  fields := by
    simp only [schema, List.forall_mem_cons, List.not_mem_nil, false_implies, implies_true, and_true]
    exact ⟨fun hne => absurd rfl hne, fun _ => keeps_plain fun _ _ => rfl⟩
  leftovers := nofun

theorem owns_limit : schema.Owns "limit" .float limit where
  find? := ⟨_, _, fun _ _ => rfl, rfl⟩
  fields := by
    simp only [schema, List.forall_mem_cons, List.not_mem_nil, false_implies, implies_true, and_true]
    exact ⟨fun _ => keeps_plain fun _ _ => rfl, fun hne => absurd rfl hne⟩
  leftovers := nofun

theorem isJson_of_sets {room : Nat} {items : List Document} (hlength : items.length ≤ 2)
    {u : ResourceUsage} (h : Sets room (schema.fields.zip items) schema.blank u) :
    IsJson (.array items none) u := by
  match items, hlength with
  | [], _ =>
    cases h
    exact .neither
  | [d], _ =>
    cases h with
    | cons hd h =>
      cases h
      obtain ⟨x, hx, rfl⟩ := read_plain_eq_ok_iff.1 hd
      exact .usage (Codec.read_float_eq_ok_iff.1 hx)
  | [d, e], _ =>
    cases h with
    | cons hd h =>
      cases h with
      | cons he h =>
        cases h
        obtain ⟨x, hx, rfl⟩ := read_plain_eq_ok_iff.1 hd
        obtain ⟨y, hy, rfl⟩ := read_plain_eq_ok_iff.1 he
        exact .both (Codec.read_float_eq_ok_iff.1 hx) (Codec.read_float_eq_ok_iff.1 hy)

theorem isJson_of_read {room : Nat} {d : Document} {u : ResourceUsage}
    (h : schema.codec.read (room + 1) d = .ok u) : IsJson d u := by
  change schema.read (room + 1) d = .ok u at h
  cases d with
  | object members flaws =>
    obtain ⟨rfl, hnodup, -, htakes⟩ := Schema.read_object_eq_ok_iff_takes.1 h
    exact .object (owns_usage.hasValue htakes hnodup Codec.read_float_eq_ok_iff.1)
      (owns_limit.hasValue htakes hnodup Codec.read_float_eq_ok_iff.1)
  | array items flaw =>
    obtain ⟨rfl, hlength, -, hsets⟩ := (Schema.read_array_eq_ok_iff_sets rfl).1 h
    exact isJson_of_sets hlength hsets
  | _ => cases h

end ResourceUsage

/-! ### Kinds of fields -/

/-- A kind of field. -/
structure FieldKind (α : Type) where
  /-- What a document says about the value. -/
  Holds : Document → α → Prop
  /-- What stands for a missing key. -/
  default : α
  /-- What is written. -/
  form : α → Value

namespace FieldKind

/-- A text that may be missing; `null` says that it is. -/
def text : FieldKind (Option String) where
  Holds d x := d = .null ∧ x = none ∨ ∃ s, d = .string (some s) ∧ x = some s
  default := none
  form x := x.elim .null .string

/-- A number of things, an integer of 64 bits with sign. -/
def count : FieldKind Int where
  Holds d n := d.IsInteger (.signed 64) n
  default := 0
  form := .int

/-- A rate. -/
def rate : FieldKind Binary64 where
  Holds := IsNumber
  default := .zero false
  form := .float

/-- How much of a resource is used. -/
def usage : FieldKind ResourceUsage where
  Holds := ResourceUsage.IsJson
  default := {}
  form u := .object [("usage", .float u.usage), ("limit", .float u.limit)]

/-- Texts in order. -/
def texts : FieldKind (List String) where
  Holds d xs := d = .array (xs.map fun s => .string (some s)) none
  default := []
  form xs := .array (xs.map .string)

/-- Free-form values in order, two levels below the text. -/
def values : FieldKind (List Value) where
  Holds d vs := ∃ items, d = .array items none ∧
    items.map (·.toValue (Codec.maxDepth - 2)) = vs.map .ok
  default := []
  form := .array

/-- A codec reads and writes fields of a kind. -/
structure Describes (kind : FieldKind α) (codec : Codec α) : Prop where
  /-- What is read is what the document says. -/
  read : ∀ {d x}, codec.read (Codec.maxDepth - 1) d = .ok x → kind.Holds d x
  /-- What is written has the form of the kind. -/
  write : ∀ x, codec.write x = kind.form x

theorem describes_text : text.Describes (.option .string) where
  read h := by
    rcases Codec.read_option_eq_ok_iff.1 h with hnull | ⟨-, s, hs, hx⟩
    · exact .inl hnull
    · exact .inr ⟨s, Codec.read_string_eq_ok_iff.1 hs, hx⟩
  write x := by cases x <;> rfl

theorem describes_count : count.Describes (.int (.signed 64)) where
  read := Codec.read_int_eq_ok_iff.1
  write _ := rfl

theorem describes_rate : rate.Describes .float where
  read := Codec.read_float_eq_ok_iff.1
  write _ := rfl

theorem describes_usage : usage.Describes ResourceUsage.schema.codec where
  read := ResourceUsage.isJson_of_read
  write _ := rfl

theorem describes_texts : texts.Describes (.list .string) where
  read h := by
    obtain ⟨items, rfl, hitems⟩ := Codec.read_list_eq_ok_iff.1 h
    exact congrArg (Document.array · none) (Codec.map_read_string_eq_iff.1 hitems)
  write _ := rfl

theorem describes_values : values.Describes (.list .value) where
  read := Codec.read_list_eq_ok_iff.1
  write vs := congrArg Value.array (List.map_id vs)

/-- A field has the value of its key and is written under it. -/
structure Carries (kind : FieldKind α) (members : List (Option String × Document))
    (written : Dict Value) (key : String) (x : α) : Prop where
  /-- The value is that of the key, or the default if the key is missing. -/
  read : HasValue members key kind.Holds kind.default x
  /-- The key is written with the value. -/
  written : written.get? key = some (kind.form x)

end FieldKind

/-- What becomes of the keys that are no fields. -/
structure KeepsUnknown (names : List String) (members : List (Option String × Document))
    (extra written : Dict Value) : Prop where
  /-- All keys are texts. -/
  texts : ∀ member ∈ members, ∃ key, member.1 = some key
  /-- No field is kept aside. -/
  named : ∀ key ∈ names, extra.get? key = none
  /-- Any other key is kept if it is given, with the value of its last document. -/
  unknown : ∀ key, key ∉ names → (extra.get? key).map .ok =
    (last? members key).map fun d => d.toValue (Codec.maxDepth - 1)
  /-- It is written as it was kept. -/
  written : ∀ key, key ∉ names → written.get? key = extra.get? key

/-- **What is read from a text** when unknown members are kept: every field carries the value of its
key, and the other keys are kept. -/
theorem exists_carries_of_ofBytes {T : Type} {schema : Schema T} {leftovers : Leftovers T}
    (hkeeps : schema.KeepsOthers leftovers) {bytes : Bytes} {t : T}
    (h : schema.codec.ofBytes bytes = .ok t) :
    ∃ members, Document.ofBytes bytes = (.object members none, none) ∧
      ((schema.members t).map Prod.fst).Nodup ∧
      (∀ {α : Type} {kind : FieldKind α} {codec : Codec α} {key : String} {get : T → α},
        kind.Describes codec → schema.Owns key codec get → get schema.blank = kind.default →
        kind.Carries members (.ofList (schema.members t)) key (get t)) ∧
      KeepsUnknown (schema.fields.map Field.name) members (leftovers.get t)
        (.ofList (schema.members t)) := by
  obtain ⟨members, hbytes, hnodup, htakes⟩ := hkeeps.exists_takes_of_ofBytes h
  have hapart : ∀ key ∈ schema.fields.map Field.name, (leftovers.get t).get? key = none :=
    fun _ => hkeeps.get?_of_mem htakes
  refine ⟨members, hbytes, hkeeps.nodup_members hapart,
    fun {α kind codec key get} hkind howns hdefault => ?_, ?_⟩
  · obtain ⟨presence, put, -, hfind⟩ := howns.find?
    refine ⟨hdefault ▸ howns.hasValue htakes hnodup hkind.read, ?_⟩
    rw [← hkind.write]
    exact hkeeps.get?_write_of_find? hapart hfind
  · exact ⟨htakes.exists_key, hapart, fun _ => hkeeps.get?_of_notMem htakes,
      fun _ => hkeeps.get?_write_of_notMem hapart⟩

/-! ### Load reports -/

namespace LoadReport

/-- The keys of the fields. -/
def names : List String :=
  ["webServiceUrl", "pulsarServiceUrl", "cpu", "memory", "directMemory", "bandwidthIn",
    "bandwidthOut", "msgRateIn", "msgRateOut", "numTopics", "numBundles", "numConsumers",
    "numProducers", "bundles"]

/-- A load report has all that members of an object say, and so does what is written for it. -/
structure Reflects (report : LoadReport) (members : List (Option String × Document))
    (written : Dict Value) : Prop where
  /-- Where the server answers web requests. -/
  webServiceUrl : FieldKind.text.Carries members written "webServiceUrl" report.webServiceUrl
  /-- Where the server answers clients. -/
  brokerServiceUrl :
    FieldKind.text.Carries members written "pulsarServiceUrl" report.brokerServiceUrl
  /-- Processor time. -/
  cpu : FieldKind.usage.Carries members written "cpu" report.cpu
  /-- Memory. -/
  memory : FieldKind.usage.Carries members written "memory" report.memory
  /-- Memory outside of the heap. -/
  directMemory : FieldKind.usage.Carries members written "directMemory" report.directMemory
  /-- Incoming traffic. -/
  bandwidthIn : FieldKind.usage.Carries members written "bandwidthIn" report.bandwidthIn
  /-- Outgoing traffic. -/
  bandwidthOut : FieldKind.usage.Carries members written "bandwidthOut" report.bandwidthOut
  /-- Incoming messages a second. -/
  msgRateIn : FieldKind.rate.Carries members written "msgRateIn" report.msgRateIn
  /-- Outgoing messages a second. -/
  msgRateOut : FieldKind.rate.Carries members written "msgRateOut" report.msgRateOut
  /-- The number of topics. -/
  topicCount : FieldKind.count.Carries members written "numTopics" report.topicCount
  /-- The number of bundles. -/
  bundleCount : FieldKind.count.Carries members written "numBundles" report.bundleCount
  /-- The number of consumers. -/
  consumerCount : FieldKind.count.Carries members written "numConsumers" report.consumerCount
  /-- The number of producers. -/
  producerCount : FieldKind.count.Carries members written "numProducers" report.producerCount
  /-- The bundles that the server serves. -/
  bundles : FieldKind.texts.Carries members written "bundles" report.bundles
  /-- Whatever else the object holds. -/
  extra : KeepsUnknown names members report.extra written

theorem keepsOthers : schema.KeepsOthers
    ⟨(·.extra), fun t key v => { t with extra := t.extra.insert key v }⟩ where
  leftovers_eq := rfl
  names := by decide
  blank := rfl
  get_put _ _ _ := rfl
  keeps := by
    simp only [schema, List.forall_mem_cons, List.not_mem_nil, false_implies, implies_true, and_true]
    and_intros <;> exact keeps_plain fun _ _ => rfl

/-- Every field has a place of its own. -/
theorem owns : schema.Owns "webServiceUrl" (.option .string) webServiceUrl ∧
    schema.Owns "pulsarServiceUrl" (.option .string) brokerServiceUrl ∧
    schema.Owns "cpu" ResourceUsage.schema.codec cpu ∧
    schema.Owns "memory" ResourceUsage.schema.codec memory ∧
    schema.Owns "directMemory" ResourceUsage.schema.codec directMemory ∧
    schema.Owns "bandwidthIn" ResourceUsage.schema.codec bandwidthIn ∧
    schema.Owns "bandwidthOut" ResourceUsage.schema.codec bandwidthOut ∧
    schema.Owns "msgRateIn" .float msgRateIn ∧
    schema.Owns "msgRateOut" .float msgRateOut ∧
    schema.Owns "numTopics" (.int (.signed 64)) topicCount ∧
    schema.Owns "numBundles" (.int (.signed 64)) bundleCount ∧
    schema.Owns "numConsumers" (.int (.signed 64)) consumerCount ∧
    schema.Owns "numProducers" (.int (.signed 64)) producerCount ∧
    schema.Owns "bundles" (.list .string) bundles := by
  and_intros
  all_goals
    refine ⟨⟨_, _, fun _ _ => rfl, rfl⟩, ?_, ?_⟩
    · simp only [schema, List.forall_mem_cons, List.not_mem_nil, false_implies, implies_true,
        and_true]
      and_intros <;> first
        | exact fun _ => keeps_plain fun _ _ => rfl
        | exact fun hne => absurd rfl hne
    · rintro _ ⟨⟩ _ _ _
      rfl

/-- **Nothing in the text of a load report is lost.** -/
theorem reflects_of_ofBytes {bytes : Bytes} {report : LoadReport}
    (h : schema.codec.ofBytes bytes = .ok report) : ∃ members written,
      Document.ofBytes bytes = (.object members none, none) ∧
      schema.codec.write report = .object written ∧ (written.map Prod.fst).Nodup ∧
      report.Reflects members (.ofList written) := by
  obtain ⟨members, hbytes, hnodup, carries, hextra⟩ := exists_carries_of_ofBytes keepsOthers h
  obtain ⟨hweb, hbroker, hcpu, hmemory, hdirect, hin, hout, hrateIn, hrateOut, htopics,
    hbundleCount, hconsumers, hproducers, hbundles⟩ := owns
  exact ⟨members, schema.members report, hbytes, rfl, hnodup, {
    webServiceUrl := carries FieldKind.describes_text hweb rfl
    brokerServiceUrl := carries FieldKind.describes_text hbroker rfl
    cpu := carries FieldKind.describes_usage hcpu rfl
    memory := carries FieldKind.describes_usage hmemory rfl
    directMemory := carries FieldKind.describes_usage hdirect rfl
    bandwidthIn := carries FieldKind.describes_usage hin rfl
    bandwidthOut := carries FieldKind.describes_usage hout rfl
    msgRateIn := carries FieldKind.describes_rate hrateIn rfl
    msgRateOut := carries FieldKind.describes_rate hrateOut rfl
    topicCount := carries FieldKind.describes_count htopics rfl
    bundleCount := carries FieldKind.describes_count hbundleCount rfl
    consumerCount := carries FieldKind.describes_count hconsumers rfl
    producerCount := carries FieldKind.describes_count hproducers rfl
    bundles := carries FieldKind.describes_texts hbundles rfl
    extra := hextra }⟩

end LoadReport

/-! ### Statistics of allocators -/

namespace AllocatorStats

/-- The keys of the fields. -/
def names : List String :=
  ["numDirectArenas", "numHeapArenas", "numThreadLocalCaches", "normalCacheSize", "smallCacheSize",
    "directArenas", "heapArenas"]

/-- The statistics of an allocator have all that members of an object say, and so does what is
written for them. -/
structure Reflects (stats : AllocatorStats) (members : List (Option String × Document))
    (written : Dict Value) : Prop where
  /-- The number of arenas outside of the heap. -/
  directArenaCount :
    FieldKind.count.Carries members written "numDirectArenas" stats.directArenaCount
  /-- The number of arenas on the heap. -/
  heapArenaCount : FieldKind.count.Carries members written "numHeapArenas" stats.heapArenaCount
  /-- The number of caches of threads. -/
  threadCacheCount :
    FieldKind.count.Carries members written "numThreadLocalCaches" stats.threadCacheCount
  /-- The size of the caches for normal blocks. -/
  normalCacheSize : FieldKind.count.Carries members written "normalCacheSize" stats.normalCacheSize
  /-- The size of the caches for small blocks. -/
  smallCacheSize : FieldKind.count.Carries members written "smallCacheSize" stats.smallCacheSize
  /-- The arenas outside of the heap. -/
  directArenas : FieldKind.values.Carries members written "directArenas" stats.directArenas
  /-- The arenas on the heap. -/
  heapArenas : FieldKind.values.Carries members written "heapArenas" stats.heapArenas
  /-- Whatever else the object holds. -/
  extra : KeepsUnknown names members stats.extra written

theorem keepsOthers : schema.KeepsOthers
    ⟨(·.extra), fun t key v => { t with extra := t.extra.insert key v }⟩ where
  leftovers_eq := rfl
  names := by decide
  blank := rfl
  get_put _ _ _ := rfl
  keeps := by
    simp only [schema, List.forall_mem_cons, List.not_mem_nil, false_implies, implies_true, and_true]
    and_intros <;> exact keeps_plain fun _ _ => rfl

/-- Every field has a place of its own. -/
theorem owns : schema.Owns "numDirectArenas" (.int (.signed 64)) directArenaCount ∧
    schema.Owns "numHeapArenas" (.int (.signed 64)) heapArenaCount ∧
    schema.Owns "numThreadLocalCaches" (.int (.signed 64)) threadCacheCount ∧
    schema.Owns "normalCacheSize" (.int (.signed 64)) normalCacheSize ∧
    schema.Owns "smallCacheSize" (.int (.signed 64)) smallCacheSize ∧
    schema.Owns "directArenas" (.list .value) directArenas ∧
    schema.Owns "heapArenas" (.list .value) heapArenas := by
  and_intros
  all_goals
    refine ⟨⟨_, _, fun _ _ => rfl, rfl⟩, ?_, ?_⟩
    · simp only [schema, List.forall_mem_cons, List.not_mem_nil, false_implies, implies_true,
        and_true]
      and_intros <;> first
        | exact fun _ => keeps_plain fun _ _ => rfl
        | exact fun hne => absurd rfl hne
    · rintro _ ⟨⟩ _ _ _
      rfl

/-- **Nothing in the text of statistics is lost.** -/
theorem reflects_of_ofBytes {bytes : Bytes} {stats : AllocatorStats}
    (h : schema.codec.ofBytes bytes = .ok stats) : ∃ members written,
      Document.ofBytes bytes = (.object members none, none) ∧
      schema.codec.write stats = .object written ∧ (written.map Prod.fst).Nodup ∧
      stats.Reflects members (.ofList written) := by
  obtain ⟨members, hbytes, hnodup, carries, hextra⟩ := exists_carries_of_ofBytes keepsOthers h
  obtain ⟨hdirectCount, hheapCount, hcaches, hnormal, hsmall, hdirect, hheap⟩ := owns
  exact ⟨members, schema.members stats, hbytes, rfl, hnodup, {
    directArenaCount := carries FieldKind.describes_count hdirectCount rfl
    heapArenaCount := carries FieldKind.describes_count hheapCount rfl
    threadCacheCount := carries FieldKind.describes_count hcaches rfl
    normalCacheSize := carries FieldKind.describes_count hnormal rfl
    smallCacheSize := carries FieldKind.describes_count hsmall rfl
    directArenas := carries FieldKind.describes_values hdirect rfl
    heapArenas := carries FieldKind.describes_values hheap rfl
    extra := hextra }⟩

end AllocatorStats

namespace BrokerStats

/-- **Nothing in a report is lost.** A load report and the statistics of an allocator are only read
from objects. Every field has the value of its key, or its default if the key is missing; every other
key is kept with the value of its last document; and what is written for the result is an object with
all of this under the same keys, each of them once. -/
theorem nothing_lost :
    (∀ (bytes : Bytes) (report : LoadReport), LoadReport.schema.codec.ofBytes bytes = .ok report →
      ∃ members written, Document.ofBytes bytes = (.object members none, none) ∧
        LoadReport.schema.codec.write report = .object written ∧
        (written.map Prod.fst).Nodup ∧ report.Reflects members (.ofList written)) ∧
    ∀ (bytes : Bytes) (stats : AllocatorStats),
      AllocatorStats.schema.codec.ofBytes bytes = .ok stats →
      ∃ members written, Document.ofBytes bytes = (.object members none, none) ∧
        AllocatorStats.schema.codec.write stats = .object written ∧
        (written.map Prod.fst).Nodup ∧ stats.Reflects members (.ofList written) :=
  ⟨fun _ _ => LoadReport.reflects_of_ofBytes, fun _ _ => AllocatorStats.reflects_of_ofBytes⟩

/-- A load report in which one key differs from a field by its case only and another one is given
twice. -/
def oddReport : Bytes :=
  Utf8.encode ("\x7b\"cpu\":[4],\"Cpu\":\x7b\"a\":[null]\x7d,\"x\":1,\"numTopics\":7," ++
    "\"x\":[true,-2],\"webServiceUrl\":null\x7d")

/-- Statistics in which one field holds free-form values and another one is left over. -/
def oddStats : Bytes :=
  Utf8.encode ("\x7b\"directArenas\":[\x7b\"id\":3\x7d,\"b\"],\"heap_arenas\":[]," ++
    "\"numHeapArenas\":-1\x7d")

/-- What is read from these texts. -/
theorem nothing_lost_oddTexts :
    (∃ report members written, LoadReport.schema.codec.ofBytes oddReport = .ok report ∧
      (report.cpu, report.topicCount, report.extra.toList.map fun p => (p.1, p.2.compact)) =
        (⟨.ofInt 4, .zero false⟩, 7, [("Cpu", "\x7b\"a\":[null]\x7d"), ("x", "[true,-2]")]) ∧
      Document.ofBytes oddReport = (.object members none, none) ∧
      LoadReport.schema.codec.write report = .object written ∧
      (written.map Prod.fst).Nodup ∧ report.Reflects members (.ofList written)) ∧
    ∃ stats members written, AllocatorStats.schema.codec.ofBytes oddStats = .ok stats ∧
      (stats.heapArenaCount, stats.extra.toList.map fun p => (p.1, p.2.compact)) =
        (-1, [("heap_arenas", "[]")]) ∧
      Document.ofBytes oddStats = (.object members none, none) ∧
      AllocatorStats.schema.codec.write stats = .object written ∧
      (written.map Prod.fst).Nodup ∧ stats.Reflects members (.ofList written) := by
  have hreport : (LoadReport.schema.codec.ofBytes oddReport).toOption.map
      (fun r => (r.cpu, r.topicCount, r.extra.toList.map fun p => (p.1, p.2.compact))) =
      some (⟨.ofInt 4, .zero false⟩, 7, [("Cpu", "\x7b\"a\":[null]\x7d"), ("x", "[true,-2]")]) := by
    decide +kernel
  have hstats : (AllocatorStats.schema.codec.ofBytes oddStats).toOption.map
      (fun r => (r.heapArenaCount, r.extra.toList.map fun p => (p.1, p.2.compact))) =
      some (-1, [("heap_arenas", "[]")]) := by
    decide +kernel
  obtain ⟨report, hread, hshown⟩ := Option.map_eq_some_iff.1 hreport
  obtain ⟨stats, hread', hshown'⟩ := Option.map_eq_some_iff.1 hstats
  have hread := toOption_eq_some_iff.1 hread
  have hread' := toOption_eq_some_iff.1 hread'
  obtain ⟨members, written, h⟩ := nothing_lost.1 oddReport report hread
  obtain ⟨members', written', h'⟩ := nothing_lost.2 oddStats stats hread'
  exact ⟨⟨report, members, written, hread, hshown, h⟩,
    stats, members', written', hread', hshown', h'⟩

end BrokerStats

end BrokerAdmin
