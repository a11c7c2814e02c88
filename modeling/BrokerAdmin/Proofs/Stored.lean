import BrokerAdmin.Proofs.Connector.Storable
import BrokerAdmin.Proofs.Connector.Upload
import BrokerAdmin.Tenant

/-!
# What is stored is what is found

A tenant or a connector is made with a request that carries it as a JSON text. If the server keeps the
text and gives it back to whoever asks for the same name, the same tenant or connector is found: what
was left out is without a value again, what was given is there, and the name of a tenant, which is not
in the text, comes from the question.

The server need not keep the bytes. It may give the members in another order, put blanks between them
or spell a string in another way, as long as the text says the same.

## Main definitions

* `SayTheSame`: two texts say the same.
* `Content.jsonText`: the JSON text that a request carries.
* `Exchange.FoundAgain`: what is made by one exchange is found by another.

## Main results

* `Exchange.ofBytes_of_sayTheSame`: a text that says what was written is read as the value.
* `Exchange.create_then_get`: tenants, sinks and sources are found as they were made.
-/

namespace BrokerAdmin

open Json Json.Codec Json.Field Result

/-! ### Texts of requests -/

/-- Two texts say the same, and nothing follows in either of them. -/
def SayTheSame (text text' : Bytes) : Prop :=
  ∃ v : Value, v.Regular ∧ v.HasText text ∧ v.HasText text'

/-- Texts of one value say the same, whatever the order of its members. -/
theorem sayTheSame_of_definite {v : Value} (h : v.Definite) {text text' : Bytes}
    (htext : v.HasText text) (htext' : v.HasText text') : SayTheSame text text' :=
  ⟨_, h.regular_sorted, htext.sorted h, htext'.sorted h⟩

/-- The JSON text that a request carries: as its body, or in the part of its form with a name. -/
def Content.jsonText (part : Option String) : Content → Option Bytes
  | .nothing => none
  | .json value => if part.isNone then some (Utf8.encode value.compact) else none
  | .form parts => part.bind fun name => (parts.part? name).map (·.data)

namespace Exchange

variable {α ω : Type}

/-- What one exchange makes, as a text in one place, is found there by another. -/
structure FoundAgain (files : Files) (create : Exchange Error Unit) (get : Exchange Error α)
    (endpoint : Endpoint) (part : Option String) (text : Bytes) (x : α) : Prop where
  /-- Making it is one request to this place, and the request carries the text. -/
  made : ∃ request : Request, request.endpoint = endpoint ∧
    request.content.jsonText part = some text ∧
    ∀ {ω : Type} (transport : Transport ω) (log : List ω),
      create.run files transport log = transport.deliver request log
  /-- The text says something, and nothing follows it. -/
  whole : SayTheSame text text
  /-- Whoever gets what is there, and is answered with a text that says the same, has what was made. -/
  found : ∀ {ω : Type} (files : Files) (transport : Transport ω) (log : List ω) (out : ω)
    (response : Response), transport.outgoing { method := .get, endpoint } = .ok out →
    transport.answer log out = .ok response → SayTheSame text response.body →
    get.run files transport log = (some (.ok x), log ++ [out])

/-- What is at an endpoint is read from the body of the answer. -/
theorem run_get (files : Files) {transport : Transport ω} {codec : Codec α} {endpoint : Endpoint}
    {log : List ω} {out : ω} {response : Response}
    (hout : transport.outgoing { method := .get, endpoint } = .ok out)
    (hanswer : transport.answer log out = .ok response) :
    (get codec endpoint).run files transport log =
      (some ((codec.ofBytes response.body).mapError Error.json), log ++ [out]) := by
  have hfetch : (fetch endpoint).run files transport log =
      (some (.ok response.body), log ++ [out]) := by
    rw [fetch, ask, bind_send, run_send_of_outgoing _ _ hout, hanswer]
    rfl
  rw [get, run_bind, hfetch]
  exact run_ofExcept files transport _ _

/-- **A text that says what was written** is read as the value. -/
theorem ofBytes_of_sayTheSame {codec : Codec α} {x : α} (h : codec.Restores x)
    (hdepth : (codec.write x).depth ≤ maxDepth) {written text : Bytes}
    (hwritten : (codec.write x).sorted.HasText written) (htext : SayTheSame written text) :
    codec.ofBytes text = .ok x := by
  obtain ⟨v, regular, hv, hsame⟩ := htext
  obtain rfl := hwritten.unique hv h.definite.regular_sorted regular
  exact h.ofBytes_eq hsame hdepth

theorem run_get_of_sayTheSame (files : Files) {transport : Transport ω} {codec : Codec α} {x : α}
    (h : codec.Restores x) (hdepth : (codec.write x).depth ≤ maxDepth) {endpoint : Endpoint}
    {log : List ω} {out : ω} {response : Response}
    (hout : transport.outgoing { method := .get, endpoint } = .ok out)
    (hanswer : transport.answer log out = .ok response) {written : Bytes}
    (hwritten : (codec.write x).sorted.HasText written) (hsame : SayTheSame written response.body) :
    (get codec endpoint).run files transport log = (some (.ok x), log ++ [out]) := by
  rw [run_get files hout hanswer, ofBytes_of_sayTheSame h hdepth hwritten hsame]
  rfl

end Exchange

/-! ### Tenants -/

namespace Tenant

open Exchange

theorem independent_schema : schema.Independent where
  leftovers := rfl
  names := by decide
  presence := by decide
  swaps := by
    simp only [schema, List.pairwise_cons, List.forall_mem_cons, List.not_mem_nil, false_implies,
      implies_true, List.Pairwise.nil, and_true]
    exact puts_plain.swaps puts_plain fun _ _ _ => rfl

/-- A tenant without the name, which is not written. -/
def withoutName (x : Tenant) : Tenant := { x with name := "" }

/-- A tenant reads back without its name. -/
theorem restores_withoutName (x : Tenant) : schema.codec.Restores x.withoutName :=
  independent_schema.restores <|
    .plain (restores_list fun s _ => restores_string s) <|
    .plain (restores_list fun s _ => restores_string s) .nil

/-- A tenant is written as two lists of texts. -/
theorem depth_write_le (x : Tenant) : (schema.codec.write x).depth ≤ 2 := by
  have hlist : ∀ texts : List String, (Codec.string.list.write texts).depth ≤ 1 := fun texts =>
    Nat.succ_le_succ (Value.depthOfItems_le_iff.2 (List.forall_mem_map.2 fun _ _ => Nat.le_refl 0))
  refine Nat.succ_le_succ (Value.depthOfMembers_le_iff.2 ?_)
  exact List.forall_mem_cons.2 ⟨hlist _, List.forall_mem_singleton.2 (hlist _)⟩

/-- **A tenant is found as it was made**, with the name that was asked for. -/
theorem foundAgain (files : Files) (version : ApiVersion) (x : Tenant) :
    FoundAgain files (create version x) (get version x.name) (endpoint version x.name) none
      (Utf8.encode (schema.codec.write x).sorted.compact) x := by
  have hrestores := x.restores_withoutName
  have regular : (schema.codec.write x).sorted.Regular := hrestores.definite.regular_sorted
  have htext := regular.definite.hasText_compact
  refine ⟨?_, sayTheSame_of_definite regular.definite htext htext, ?_⟩
  · refine ⟨{ method := .put, endpoint := endpoint version x.name,
              content := .ofValue schema.codec x }, rfl, rfl, fun transport log => ?_⟩
    exact run_order files transport _ _ _ log
  · intro _ files transport log out response hout hanswer hsame
    have hdepth : (schema.codec.write x.withoutName).depth ≤ maxDepth :=
      Nat.le_trans x.depth_write_le (by decide)
    rw [get, run_bind, run_get_of_sayTheSame files hrestores hdepth hout hanswer htext hsame]
    rfl

end Tenant

namespace ConnectorKind

open Exchange

variable {C S I : Type} {kind : ConnectorKind C S I} {files : Files}

/-- A package whose archive can be uploaded, if it has one that must be. -/
def Available (files : Files) : Package → Prop
  | .archive path => ∃ attached, Attached files path attached
  | .url _ => True

/-- The form that makes a connector has a part with the settings. -/
theorem made_of_available {package : Package} (h : Available files package)
    (hpart : kind.configPart ≠ "url") (version : ApiVersion) (config : C) : ∃ request : Request,
    request.endpoint = kind.endpoint version (kind.nameOf config) ∧
    request.content.jsonText (some kind.configPart) =
      some (Utf8.encode (kind.config.write config).compact) ∧
    ∀ {ω : Type} (transport : Transport ω) (log : List ω),
      (kind.create version config package).run files transport log =
        transport.deliver request log := by
  cases package with
  | archive path =>
    obtain ⟨attached, hattached⟩ := h
    refine ⟨_, rfl, ?_, fun transport log => run_form_order hattached transport log config none _ _⟩
    simp [Content.jsonText, Form.part?, jsonPart]
  | url address =>
    refine ⟨{ method := .post, endpoint := kind.endpoint version (kind.nameOf config),
              content := .form (kind.withConfig (Form.text {} "url" address) config none) },
      rfl, ?_, fun transport log => run_order files transport _ _ _ log⟩
    simp [Content.jsonText, Form.part?, withConfig, Form.json, Form.text, Form.add, hpart.symm]

/-- Without its archive no connector is made, and nothing is sent. -/
theorem run_create_of_not_available {package : Package} (h : ¬ Available files package)
    (version : ApiVersion) (config : C) : ∃ error : Error, ∀ {ω : Type} (transport : Transport ω)
      (log : List ω), (kind.create version config package).run files transport log =
        (some (.error error), log) := by
  cases package with
  | archive path =>
    obtain ⟨error, herror⟩ := Classical.not_not.1 (mt exists_attached_iff.2 h)
    exact ⟨error, fun transport log =>
      run_form_order_unavailable herror transport log config none _ _⟩
  | url address => exact absurd trivial h

/-- Connectors of a kind are found as they were made. -/
structure FindsAgain {C S I : Type} (kind : ConnectorKind C S I) (part : String)
    (codec : Json.Codec C) (nameOf : C → ConnectorName) (storable : C → Prop) : Prop where
  /-- What was sent is found, if a text can hold it and it does not nest too deeply. -/
  found : ∀ {files config package}, storable config → (codec.write config).depth ≤ 127 →
    Available files package → ∀ version,
      FoundAgain files (kind.create version config package) (kind.get version (nameOf config))
        (kind.endpoint version (nameOf config)) (some part)
        (Utf8.encode (codec.write config).compact) config
  /-- Without its archive no connector is made, and nothing is sent. -/
  unavailable : ∀ {files config package}, ¬ Available files package → ∀ version, ∃ error : Error,
    ∀ {ω : Type} (transport : Transport ω) (log : List ω),
      (kind.create version config package).run files transport log = (some (.error error), log)

/-- **A kind of connectors** whose settings read back. -/
theorem findsAgain {storable : C → Prop}
    (h : ∀ {config}, storable config → kind.config.Restores config)
    (hpart : kind.configPart ≠ "url") :
    FindsAgain kind kind.configPart kind.config kind.nameOf storable where
  found hconfig hdepth hpackage version := by
    have hrestores := h hconfig
    have htext := hrestores.definite.hasText_compact
    exact
      { made := made_of_available hpackage hpart version _
        whole := sayTheSame_of_definite hrestores.definite htext htext
        found := fun files _ _ _ _ hout hanswer hsame =>
          run_get_of_sayTheSame files hrestores hdepth hout hanswer
            (htext.sorted hrestores.definite) hsame }
  unavailable hpackage version := run_create_of_not_available hpackage version _

end ConnectorKind

namespace Exchange

open ConnectorKind

/-- **What is stored is what is found.** A tenant is made with one request, and so is a sink or a
source whose archive, if it has one, can be uploaded. The request carries a JSON text. Whoever asks
for the same name, and is answered with this text or with another one that says the same, gets an
equal tenant, sink or source. All tenants are found, and the settings of connectors if they have no
floating-point number, keep to the ranges of their fields and do not nest deeper than 127 levels. -/
theorem create_then_get :
    (∀ (files : Files) (version : ApiVersion) (x : Tenant),
      FoundAgain files (Tenant.create version x) (Tenant.get version x.name)
        (Tenant.endpoint version x.name) none
        (Utf8.encode (Tenant.schema.codec.write x).sorted.compact) x) ∧
    FindsAgain sinks "sinkConfig" SinkConfig.schema.codec
      (fun config => ⟨config.tenant, config.namespace, config.name⟩) SinkConfig.Storable ∧
    FindsAgain sources "sourceConfig" SourceConfig.schema.codec
      (fun config => ⟨config.tenant, config.namespace, config.name⟩) SourceConfig.Storable := by
  refine ⟨Tenant.foundAgain, ?_, ?_⟩
  · exact findsAgain SinkConfig.Storable.restores (by decide)
  · exact findsAgain SourceConfig.Storable.restores (by decide)

/-- A server that answers every request with one body. -/
def answering (body : Bytes) : Transport Request := ⟨.ok, fun _ _ => .ok ⟨200, [], body⟩⟩

theorem FoundAgain.run_answering {files : Files} {create : Exchange Error Unit}
    {get : Exchange Error α} {endpoint : Endpoint} {part : Option String} {text body : Bytes} {x : α}
    (h : FoundAgain files create get endpoint part text x) (hsame : SayTheSame text body) :
    get.run files (answering body) [] = (some (.ok x), [{ method := .get, endpoint }]) :=
  h.found files (answering body) [] _ ⟨200, [], body⟩ rfl rfl hsame

/-- Free-form settings with a key to be escaped, with `null` and with the greatest integer. -/
def nullSettings : List (String × Value) :=
  [("\"\n", .null), ("limits", .array [.int 0xFFFFFFFFFFFFFFFF, .object []])]

/-- The settings of a sink in which some things are empty, some are `null` and some are missing. -/
def sparseSink : SinkConfig where
  tenant := "t"
  «namespace» := "n"
  name := "s"
  inputs := some []
  schemaTypes := some (.ofList [])
  configs := some (.ofList nullSettings)
  parallelism := some (-0x80000000)
  resources := some {}

theorem storable_sparseSink : sparseSink.Storable where
  configs := by
    intro d hd p hp
    obtain rfl := Option.some.inj hd
    have hmem : p ∈ nullSettings := (Dict.toList_ofList_perm (by decide)).mem_iff.1 hp
    simp only [nullSettings, List.mem_cons, List.not_mem_nil, or_false] at hmem
    rcases hmem with rfl | rfl
    · trivial
    · exact ⟨⟨by decide, by decide⟩, ⟨.nil, trivial⟩, trivial⟩
  parallelism := by
    intro n hn
    obtain rfl := Option.some.inj hn
    decide
  timeoutMs := nofun
  resources := by
    intro r hr
    obtain rfl := Option.some.inj hr
    exact ⟨rfl, nofun, nofun⟩

/-- Settings with empty parts, from an answer that gives them over several lines, and a tenant whose
name comes from the question. -/
theorem create_then_get_sparse :
    (sinks.get .v3 ⟨"t", "n", "s"⟩).run (fun _ => .ok []) (answering (Utf8.encode
      ((SinkConfig.schema.codec.write sparseSink).pretty ++ "\n"))) [] =
        (some (.ok sparseSink), [{ method := .get
                                   endpoint := ⟨["admin", "v3", "sinks", "t", "n", "s"], []⟩ }]) ∧
    (Tenant.get .v2 "a/b").run (fun _ => .ok []) (answering (Utf8.encode
      "\x7b\"adminRoles\":[],\"allowedClusters\":[\"c\"]\x7d")) [] =
        (some (.ok ⟨"a/b", [], ["c"]⟩),
          [{ method := .get, endpoint := ⟨["admin", "v2", "tenants", "a/b"], []⟩ }]) := by
  obtain ⟨htenants, hsinks, -⟩ := create_then_get
  have hdefinite := storable_sparseSink.restores.definite
  have hsame : SayTheSame (Utf8.encode (SinkConfig.schema.codec.write sparseSink).compact)
      (Utf8.encode ((SinkConfig.schema.codec.write sparseSink).pretty ++ "\n")) :=
    sayTheSame_of_definite hdefinite hdefinite.hasText_compact
      (hdefinite.hasText_pretty (by simp [AreBlank]))
  have hsink := hsinks.found storable_sparseSink (by decide +kernel)
    (show Available (fun _ => .ok []) (.archive none) from ⟨_, .none⟩) .v3
  have htenant := htenants (fun _ => .ok []) .v2 ⟨"a/b", [], ["c"]⟩
  have htext : Utf8.encode (Tenant.schema.codec.write ⟨"a/b", [], ["c"]⟩).sorted.compact =
      Utf8.encode "\x7b\"adminRoles\":[],\"allowedClusters\":[\"c\"]\x7d" := by decide +kernel
  rw [htext] at htenant
  exact ⟨hsink.run_answering hsame, htenant.run_answering htenant.whole⟩

end Exchange

end BrokerAdmin
