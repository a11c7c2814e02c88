import BrokerAdmin.Connector.Calls
import BrokerAdmin.Proofs.Json.ReadBack

/-!
# Settings that a text can hold

The settings of a connector are written without what is not set, and read back field by field. A text
can hold almost all of them. The share of a processor is a floating-point number, which has no place
here, and numbers beyond the range of their field have no text that is read.

What is empty is not what is missing: an empty list or dictionary is written and comes back empty, and
so does `null` among free-form settings.

## Main definitions

* `SinkConfig.Storable`, `SourceConfig.Storable`: the settings that a text can hold.

## Main results

* `SinkConfig.Storable.restores`, `SourceConfig.Storable.restores`: such settings read back.
-/

namespace BrokerAdmin

open Json Json.Codec Json.Field

/-! ### Settings -/

/-- A number that may be missing fits a range. -/
def Fits (range : IntegerRange) (n : Option Int) : Prop :=
  ∀ m, n = some m → range.low ≤ m ∧ m ≤ range.high

/-- Free-form settings that may be missing are regular. -/
def AreRegular (settings : Option (Dict Value)) : Prop :=
  ∀ d, settings = some d → ∀ p ∈ d.toList, p.2.Regular

/-- What an instance asks for can be held by a text. -/
structure ConnectorResources.Storable (r : ConnectorResources) : Prop where
  /-- No share of a processor is asked for. -/
  cpu : r.cpu = none
  /-- The memory fits its field. -/
  ram : Fits (.signed 64) r.ram
  /-- The disk space fits its field. -/
  disk : Fits (.signed 64) r.disk

/-- The settings of a sink can be held by a text. -/
structure SinkConfig.Storable (c : SinkConfig) : Prop where
  /-- The settings of its own are regular. -/
  configs : AreRegular c.configs
  /-- The number of instances fits its field. -/
  parallelism : Fits (.signed 32) c.parallelism
  /-- The time for a message fits its field. -/
  timeoutMs : Fits (.signed 64) c.timeoutMs
  /-- What an instance asks for can be held by a text. -/
  resources : ∀ r, c.resources = some r → r.Storable

/-- The settings of a source can be held by a text. -/
structure SourceConfig.Storable (c : SourceConfig) : Prop where
  /-- The settings of its own are regular. -/
  configs : AreRegular c.configs
  /-- The places of its secrets are regular. -/
  secrets : AreRegular c.secrets
  /-- The number of instances fits its field. -/
  parallelism : Fits (.signed 32) c.parallelism
  /-- What an instance asks for can be held by a text. -/
  resources : ∀ r, c.resources = some r → r.Storable

/-! ### Fields that may be missing -/

theorem restoresOption_string {x : Option String} : Codec.string.RestoresOption x :=
  fun s _ => ⟨restores_string s, nofun⟩

theorem restoresOption_bool {x : Option Bool} : Codec.bool.RestoresOption x :=
  fun b _ => ⟨restores_bool b, nofun⟩

theorem restoresOption_strings {x : Option (List String)} :
    Codec.string.list.RestoresOption x :=
  fun _ _ => ⟨restores_list fun s _ => restores_string s, nofun⟩

theorem restoresOption_entries {x : Option (Dict String)} :
    Codec.string.dict.RestoresOption x :=
  fun _ _ => ⟨restores_dict fun p _ => restores_string p.2, nofun⟩

theorem AreRegular.restoresOption {x : Option (Dict Value)} (h : AreRegular x) :
    Codec.value.dict.RestoresOption x :=
  fun d hd => ⟨restores_dict fun p hp => restores_value (h d hd p hp), nofun⟩

/-- A range that lies in 64 bits. -/
theorem Fits.restoresOption {range : IntegerRange} {x : Option Int} (h : Fits range x)
    (hlow : -0x8000000000000000 ≤ range.low) (hhigh : range.high ≤ 0xFFFFFFFFFFFFFFFF) :
    (Codec.int range).RestoresOption x :=
  fun n hn => ⟨restores_int hlow hhigh (h n hn), nofun⟩

/-! ### Resources -/

namespace ConnectorResources

theorem independent_schema : schema.Independent where
  leftovers := rfl
  names := by decide
  presence := by decide
  swaps := by
    simp only [schema, List.pairwise_cons, List.forall_mem_cons, List.not_mem_nil, false_implies,
      implies_true, List.Pairwise.nil, and_true]
    refine ⟨⟨?_, ?_⟩, ?_⟩ <;> exact puts_omittable.swaps puts_omittable fun _ _ _ => rfl

theorem Storable.restores {r : ConnectorResources} (h : r.Storable) : schema.codec.Restores r :=
  independent_schema.restores <|
    .omittable (fun _ hcpu => nomatch h.cpu.symm.trans hcpu) rfl <|
    .omittable (h.ram.restoresOption (by decide) (by decide)) rfl <|
    .omittable (h.disk.restoresOption (by decide) (by decide)) rfl .nil

theorem restoresOption {x : Option ConnectorResources} (h : ∀ r, x = some r → r.Storable) :
    schema.codec.RestoresOption x :=
  fun r hr => ⟨(h r hr).restores, nofun⟩

end ConnectorResources

/-! ### Sinks and sources -/

namespace SinkConfig

theorem independent_schema : schema.Independent where
  leftovers := rfl
  names := by decide
  presence := by decide
  swaps := by
    simp only [schema, List.pairwise_cons, List.forall_mem_cons, List.not_mem_nil, false_implies,
      implies_true, List.Pairwise.nil, and_true]
    repeat' apply And.intro
    all_goals first
      | exact puts_omittable.swaps puts_omittable fun _ _ _ => rfl
      | exact puts_plain.swaps puts_omittable fun _ _ _ => rfl
      | exact puts_plain.swaps puts_plain fun _ _ _ => rfl

/-- **The settings of a sink read back**, whatever the order of the members. -/
theorem Storable.restores {c : SinkConfig} (h : c.Storable) : schema.codec.Restores c :=
  -- One line for each field, in the order of their declaration.
  independent_schema.restores <|
    .plain (restores_string c.tenant) <|
    .plain (restores_string c.namespace) <|
    .plain (restores_string c.name) <|
    .omittable restoresOption_string rfl <|
    .omittable restoresOption_string rfl <|
    .omittable restoresOption_strings rfl <|
    .omittable restoresOption_entries rfl <|
    .omittable restoresOption_string rfl <|
    .omittable restoresOption_entries rfl <|
    .omittable h.configs.restoresOption rfl <|
    .omittable (h.parallelism.restoresOption (by decide) (by decide)) rfl <|
    .omittable restoresOption_string rfl <|
    .omittable restoresOption_string rfl <|
    .omittable restoresOption_bool rfl <|
    .omittable restoresOption_bool rfl <|
    .omittable (h.timeoutMs.restoresOption (by decide) (by decide)) rfl <|
    .omittable restoresOption_bool rfl <|
    .omittable restoresOption_string rfl <|
    .omittable restoresOption_string rfl <|
    .omittable (ConnectorResources.restoresOption h.resources) rfl .nil

end SinkConfig

namespace SourceConfig

theorem independent_schema : schema.Independent where
  leftovers := rfl
  names := by decide
  presence := by decide
  swaps := by
    simp only [schema, List.pairwise_cons, List.forall_mem_cons, List.not_mem_nil, false_implies,
      implies_true, List.Pairwise.nil, and_true]
    repeat' apply And.intro
    all_goals first
      | exact puts_omittable.swaps puts_omittable fun _ _ _ => rfl
      | exact puts_plain.swaps puts_omittable fun _ _ _ => rfl
      | exact puts_plain.swaps puts_plain fun _ _ _ => rfl

/-- **The settings of a source read back**, whatever the order of the members. -/
theorem Storable.restores {c : SourceConfig} (h : c.Storable) : schema.codec.Restores c :=
  independent_schema.restores <|
    .plain (restores_string c.tenant) <|
    .plain (restores_string c.namespace) <|
    .plain (restores_string c.name) <|
    .omittable restoresOption_string rfl <|
    .omittable restoresOption_string rfl <|
    .omittable restoresOption_string rfl <|
    .omittable restoresOption_string rfl <|
    .omittable h.configs.restoresOption rfl <|
    .omittable h.secrets.restoresOption rfl <|
    .omittable (h.parallelism.restoresOption (by decide) (by decide)) rfl <|
    .omittable restoresOption_string rfl <|
    .omittable (ConnectorResources.restoresOption h.resources) rfl <|
    .omittable restoresOption_string rfl <|
    .omittable restoresOption_string rfl <|
    .omittable restoresOption_string rfl .nil

end SourceConfig

end BrokerAdmin
