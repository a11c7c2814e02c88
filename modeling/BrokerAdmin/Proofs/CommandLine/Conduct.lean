import BrokerAdmin.CommandLine.Run
import BrokerAdmin.Proofs.Exchange.Contract
import Mathlib.Data.List.Forall2

/-!
# How commands conduct themselves

Each command has its own order of reading texts and files, asking the server and showing what it was
told. What all of them have in common is said by one contract: all but one send a single request,
those that only look send nothing that changes anything, and what is shown is made of the answers
and of nothing else.

What a command shows is described here by the answers alone: their bodies are decoded, and the
decoded value is printed as a whole.

## Main definitions

* `Command.isPeek`, `Command.isInspection`: the command that loops, and the commands that only look.
* `Command.Shows`: what is printed for the answers that a command has had.

## Main results

* `Command.exchange_meets`: what every command keeps to.
-/

namespace BrokerAdmin.CommandLine

open Exchange Result

variable {files : Files}

/-! ### What is printed -/

/-- What is printed is the value that the body of the only answer denotes. -/
def Decoded {α : Type} (codec : Json.Codec α) (responses : List Response) (text : String) : Prop :=
  ∃ response value, responses = [response] ∧ codec.ofBytes response.body = .ok value ∧
    text = (codec.write value).pretty ++ "\n"

/-- Nothing is printed for the only answer. -/
def Silent (responses : List Response) (text : String) : Prop := responses.length = 1 ∧ text = ""

namespace ConnectorCommand

/-- Whether a command for connectors only looks. -/
def isInspection : ConnectorCommand → Bool
  | .list .. | .get .. | .status .. | .listBuiltin => true
  | .create .. | .update .. | .delete .. | .act .. | .reloadBuiltin => false

/-- What is printed for the answers that a command for connectors has had. -/
def Shows {C S I : Type} (kind : ConnectorKind C S I) :
    ConnectorCommand → List Response → String → Prop
  | .list .. => Decoded (.list .string)
  | .get .. => Decoded kind.config
  | .status _ none => Decoded kind.status
  | .status _ (some _) => Decoded kind.instanceStatus
  | .listBuiltin => Decoded ConnectorDefinition.schema.codec.list
  | .create .. | .update .. | .delete .. | .act .. | .reloadBuiltin => Silent

end ConnectorCommand

namespace Command

/-- Whether a command asks for one position after the other. -/
def isPeek : Command → Bool
  | .peek .. => true
  | _ => false

/-- Whether a command only looks. -/
def isInspection : Command → Bool
  | .listSubscriptions .. | .peek .. | .getMessage .. | .listTenants | .getTenant .. | .getQuota ..
  | .metrics | .mbeans | .topicStats | .loadReport | .allocatorStats .. => true
  | .sinks command | .sources command => command.isInspection
  | .createSubscription .. | .deleteSubscription .. | .resetCursor .. | .skip .. | .clearBacklog ..
  | .expire .. | .createTenant .. | .updateTenant .. | .deleteTenant .. | .setQuota ..
  | .resetQuota .. => false

/-- What is printed for the answers that a command has had. -/
def Shows : Command → List Response → String → Prop
  | .listSubscriptions .. | .listTenants => Decoded (.list .string)
  | .peek text .. => fun responses printed =>
    ∃ topic found, TopicName.ofText text = .ok topic ∧
      List.Forall₂ (fun response messages => response.messages topic.toText = .ok messages)
        responses found ∧
      printed = (Json.Value.array (found.flatten.map Message.toJson)).pretty ++ "\n"
  | .getMessage text .. => fun responses printed =>
    ∃ topic response found, TopicName.ofText text = .ok topic ∧ responses = [response] ∧
      response.messages topic.toText = .ok found ∧
      printed = ((found.head?.map Message.toJson).getD .null).pretty ++ "\n"
  | .getTenant name => fun responses printed =>
    ∃ response tenant, responses = [response] ∧
      Tenant.schema.codec.ofBytes response.body = .ok tenant ∧
      printed = (Tenant.schema.codec.write { tenant with name }).pretty ++ "\n"
  | .getQuota .. => Decoded ResourceQuota.schema.codec
  | .metrics | .mbeans => Decoded MetricsGroup.schema.codec.list
  | .topicStats => fun responses printed =>
    ∃ response, responses = [response] ∧ printed = Utf8.decodeLossy response.body ++ "\n"
  | .loadReport => Decoded LoadReport.schema.codec
  | .allocatorStats .. => Decoded AllocatorStats.schema.codec
  | .sinks command => command.Shows .sinks
  | .sources command => command.Shows .sources
  | .createSubscription .. | .deleteSubscription .. | .resetCursor .. | .skip .. | .clearBacklog ..
  | .expire .. | .createTenant .. | .updateTenant .. | .deleteTenant .. | .setQuota ..
  | .resetQuota .. => Silent

end Command

/-! ### Contracts of commands -/

/-- The contract of a command: it may go on, or sends at most one request; if it only looks, all
requests do; and what it shows fits its answers. -/
def conduct (many inspects : Bool) (shows : List Response → String → Prop) : Contract Output where
  endless := many
  allows responses request := (many = false → responses = []) ∧ (inspects → request.method = .get)
  gives responses output := shows responses output.toText

theorem meets_quietly {call : Exchange Error Unit} {many inspects : Bool}
    {shows : List Response → String → Prop}
    (h : call.Meets files ((conduct many inspects shows).before fun _ => .nothing)) :
    (quietly call).Meets files (conduct many inspects shows) :=
  (h.mapError _).map

/-- An order is one request, and nothing is shown. -/
theorem meets_order_silent {method : Method} {endpoint : Endpoint} {content : Content} :
    (order method endpoint content).Meets files
      ((conduct false false Silent).before fun _ => .nothing) :=
  meets_order ⟨fun _ => rfl, fun h => absurd h (by decide)⟩ fun _ => ⟨rfl, rfl⟩

/-- A value that is asked for is shown. -/
theorem meets_showing_get {α : Type} {codec : Json.Codec α} {endpoint : Endpoint} :
    (showing codec (get codec endpoint)).Meets files (conduct false true (Decoded codec)) := by
  refine Meets.map (Meets.mapError (meets_get ?_ ?_) _)
  · exact ⟨fun _ => rfl, fun _ => rfl⟩
  · exact fun response value hvalue => ⟨response, value, rfl, hvalue, rfl⟩

/-! ### What is read first -/

theorem offline_readTopic (text : String) : (readTopic text).offline files =
    some ((TopicName.ofText text).mapError (.topic text)) :=
  offline_ofExcept _

theorem isOffline_readPosition (text : String) : (readPosition text).IsOffline files := by
  rw [readPosition]
  split
  · exact ⟨_, rfl⟩
  · exact isOffline_ofExcept _

/-- A command that reads a topic first. -/
theorem meets_readTopic_bind {text : String} {next : TopicName → Action} {c : Contract Output}
    (h : ∀ topic, TopicName.ofText text = .ok topic → (next topic).Meets files c) :
    (readTopic text >>= next).Meets files c :=
  meets_bind_of_offline (offline_readTopic text) fun topic htopic =>
    h topic (mapError_eq_ok_iff.1 htopic)

section Files

variable {C S I : Type} {kind : ConnectorKind C S I}

theorem isOffline_file (path : String) : (Exchange.file path).IsOffline files :=
  isOffline_ofExcept _

theorem offline_textFile (path : String) : (textFile path).offline files = some (do
    match Utf8.decode (← files path) with
    | some text => .ok text
    | none => .error .notText) :=
  offline_ofExcept _

theorem isOffline_textFile (path : String) : (textFile path).IsOffline files :=
  ⟨_, offline_textFile path⟩

theorem isOffline_load (path : String) : (ConnectorCommand.load kind path).IsOffline files := by
  refine IsOffline.mapError (IsOffline.bind ((isOffline_textFile path).mapError _) fun text => ?_) _
  exact isOffline_ofExcept _

theorem isOffline_withArchive (form : Form) (path : Option String) :
    (ConnectorKind.withArchive form path).IsOffline files := by
  unfold ConnectorKind.withArchive
  split
  · exact ⟨_, rfl⟩
  · split
    · exact ⟨_, rfl⟩
    · split
      · exact ⟨_, rfl⟩
      · exact (isOffline_file _).bind fun content => ⟨_, rfl⟩

theorem isOffline_form (config : C) (options : Option UpdateOptions) (package : Package) :
    (kind.form config options package).IsOffline files := by
  cases package with
  | archive path => exact isOffline_withArchive _ path
  | url url => exact ⟨_, rfl⟩

end Files

/-! ### What commands keep to -/

theorem ConnectorCommand.exchange_meets {C S I : Type} (kind : ConnectorKind C S I)
    (version : ApiVersion) (command : ConnectorCommand) (files : Files) :
    (command.exchange kind version).Meets files
      (conduct false command.isInspection (command.Shows kind)) := by
  cases command with
  | list tenant ofNamespace => exact meets_showing_get
  | get name => exact meets_showing_get
  | create file package =>
    refine (isOffline_load file).meets_bind fun config => meets_quietly ?_
    exact (isOffline_form config none package).meets_bind fun form => meets_order_silent
  | update file package options =>
    refine (isOffline_load file).meets_bind fun config => meets_quietly ?_
    exact (isOffline_form config (some options) package).meets_bind fun form => meets_order_silent
  | delete name => exact meets_quietly meets_order_silent
  | status name id =>
    cases id with
    | none => exact meets_showing_get
    | some id => exact meets_showing_get
  | act name id action => exact meets_quietly meets_order_silent
  | listBuiltin => exact meets_showing_get
  | reloadBuiltin => exact meets_quietly meets_order_silent

/-- A peek keeps to what its messages are: those of all answers, in their order. -/
theorem meets_peekFrom {version : ApiVersion} {s : Subscription} {c : Contract (List Message)}
    (hendless : c.endless) (hallows : ∀ responses endpoint,
      c.allows responses { method := .get, endpoint, withHeaders := true })
    (hgives : ∀ responses found, List.Forall₂
      (fun response messages => response.messages s.topic.toText = .ok messages) responses found →
      c.gives responses found.flatten) (left position missing : Nat) :
    (s.peekFrom version left position missing).Meets files c := by
  induction left generalizing c position missing with
  | zero =>
    cases missing with
    | zero => exact hgives [] [] .nil
    | succ missing => exact hendless
  | succ left ih =>
    cases missing with
    | zero => exact hgives [] [] .nil
    | succ missing =>
      refine meets_messages_bind (hallows [] _) fun response found hfound => Meets.map ?_
      refine ih (c := (c.after response).before (found ++ ·)) hendless (fun responses => hallows _)
        (fun responses others hothers => ?_) _ _
      exact hgives _ (found :: others) (.cons hfound hothers)

theorem Command.exchange_meets (profile : ApiProfile) (command : Command) (files : Files) :
    (command.exchange profile).Meets files
      (conduct command.isPeek command.isInspection command.Shows) := by
  cases command with
  | listSubscriptions topic => exact meets_readTopic_bind fun _ _ => meets_showing_get
  | createSubscription topic name position =>
    refine meets_readTopic_bind fun _ _ => ?_
    exact (isOffline_readPosition position).meets_bind fun _ => meets_quietly meets_order_silent
  | deleteSubscription topic name force =>
    exact meets_readTopic_bind fun _ _ => meets_quietly meets_order_silent
  | peek text name count =>
    refine meets_readTopic_bind fun topic htopic => Meets.map (Meets.mapError ?_ _)
    refine meets_peekFrom rfl ?_ ?_ _ _ _
    · exact fun _ _ => ⟨fun h => (nomatch h), fun _ => rfl⟩
    · exact fun responses found hfound => ⟨topic, found, htopic, hfound, rfl⟩
  | getMessage text ledger entry =>
    refine meets_readTopic_bind fun topic htopic => Meets.map (Meets.mapError ?_ _)
    refine meets_messages_bind ⟨fun _ => rfl, fun _ => rfl⟩ fun response found hfound => ?_
    exact ⟨topic, response, found, htopic, rfl, hfound, rfl⟩
  | resetCursor topic name target =>
    cases target with
    | message id =>
      refine meets_readTopic_bind fun _ _ => ?_
      exact (isOffline_readPosition id).meets_bind fun _ => meets_quietly meets_order_silent
    | time time => exact meets_readTopic_bind fun _ _ => meets_quietly meets_order_silent
  | skip topic name count => exact meets_readTopic_bind fun _ _ => meets_quietly meets_order_silent
  | clearBacklog topic name =>
    exact meets_readTopic_bind fun _ _ => meets_quietly meets_order_silent
  | expire topic name seconds =>
    cases name with
    | some name => exact meets_readTopic_bind fun _ _ => meets_quietly meets_order_silent
    | none => exact meets_readTopic_bind fun _ _ => meets_quietly meets_order_silent
  | listTenants => exact meets_showing_get
  | getTenant name =>
    refine Meets.map (Meets.mapError (Meets.map ?_) _)
    refine meets_get ⟨fun _ => rfl, fun _ => rfl⟩ ?_
    exact fun response tenant htenant => ⟨response, tenant, rfl, htenant, rfl⟩
  | createTenant tenant => exact meets_quietly meets_order_silent
  | updateTenant tenant => exact meets_quietly meets_order_silent
  | deleteTenant name => exact meets_quietly meets_order_silent
  | getQuota bundle =>
    cases bundle with
    | some bundle => exact meets_showing_get
    | none => exact meets_showing_get
  | setQuota bundle quota =>
    cases bundle with
    | some bundle => exact meets_quietly meets_order_silent
    | none => exact meets_quietly meets_order_silent
  | resetQuota bundle => exact meets_quietly meets_order_silent
  | metrics => exact meets_showing_get
  | mbeans => exact meets_showing_get
  | topicStats =>
    refine Meets.map (Meets.mapError (Meets.map ?_) _)
    refine meets_fetch ⟨fun _ => rfl, fun _ => rfl⟩ ?_
    exact fun response => ⟨response, rfl, rfl⟩
  | loadReport => exact meets_showing_get
  | allocatorStats allocator => exact meets_showing_get
  | sinks command => exact command.exchange_meets .sinks profile.sinks files
  | sources command => exact command.exchange_meets .sources profile.sources files

end BrokerAdmin.CommandLine
