import BrokerAdmin.BrokerStats
import BrokerAdmin.CommandLine.Command
import BrokerAdmin.CommandLine.Connection
import BrokerAdmin.Http

/-!
# Running a command line

A run first settles what has been written, then how to reach the server, and only then does it carry
out its command. What a command shows is printed when the command has succeeded as a whole, so a run
that fails prints nothing but what went wrong.

## Main definitions

* `Failure`: why a command fails, with `Failure.chain`.
* `Output`: what a command shows.
* `Command.exchange`: what a command does.
* `Invocation`, `Invocation.ofWords`: a command line that has been read.
* `Outcome`, `plan`, `run`: what comes of a command line.
-/

namespace BrokerAdmin.CommandLine

/-! ### Failures -/

/-- Why a command fails. -/
inductive Failure where
  /-- A text is no topic. -/
  | topic (text : String) (error : ValueError)
  /-- A text is no message id. -/
  | messageId (text : String) (error : ValueError)
  /-- Messages cannot be peeked. -/
  | peek (subscription : Subscription) (error : Error)
  /-- A message cannot be shown. -/
  | message (ledger entry : Int) (error : Error)
  /-- A file holds no settings. -/
  | config (error : ConfigError)
  /-- A call fails. -/
  | call (error : Error)
  deriving DecidableEq

/-- The wording of a failure followed by those of its causes. -/
def Failure.chain : Failure → List String
  | .topic text error => ["Invalid topic '" ++ text ++ "'", error.message]
  | .messageId text error => ["Invalid message id '" ++ text ++ "'", error.message]
  | .peek s error => ("Failed to peek " ++ s.topic.toText ++ "/" ++ s.name) :: error.chain
  | .message ledger entry error =>
    ("Failed to get message " ++ intText ledger ++ ":" ++ intText entry) :: error.chain
  | .config error => error.chain
  | .call error => error.chain

/-! ### Commands -/

/-- What a command shows. -/
inductive Output where
  /-- Nothing. -/
  | nothing
  /-- A JSON value. -/
  | json (value : Json.Value)
  /-- A text as it came. -/
  | text (text : String)

/-- What is printed. -/
def Output.toText : Output → String
  | .nothing => ""
  | .json value => value.pretty ++ "\n"
  | .text s => s ++ "\n"

/-- A command's exchange. -/
abbrev Action := Exchange Failure Output

/-- A call that shows nothing. -/
def quietly (call : Exchange Error Unit) : Action := do
  call.mapError .call
  return .nothing

/-- A call whose value is shown. -/
def showing {α : Type} (codec : Json.Codec α) (call : Exchange Error α) : Action := do
  let value ← call.mapError .call
  return .json (codec.write value)

/-- The topic that a text denotes. -/
def readTopic (text : String) : Exchange Failure TopicName :=
  .ofExcept ((TopicName.ofText text).mapError (.topic text))

/-- The place that a text denotes: a message, or the end of a topic. -/
def readPosition (text : String) : Exchange Failure MessageId :=
  if Headers.lower text = "latest" then return .latest
  else .ofExcept ((MessageId.ofText text).mapError (.messageId text))

namespace ConnectorCommand

variable {C S I : Type}

/-- The settings in a file. -/
def load (kind : ConnectorKind C S I) (file : String) : Exchange Failure C :=
  (kind.load file).mapError .config

/-- What a command for connectors does. -/
def exchange (kind : ConnectorKind C S I) (version : ApiVersion) : ConnectorCommand → Action
  | .list tenant ofNamespace =>
    showing (.list .string) (kind.list version tenant ofNamespace)
  | .get name => showing kind.config (kind.get version name)
  | .create file package => do
    let config ← load kind file
    quietly (kind.create version config package)
  | .update file package options => do
    let config ← load kind file
    quietly (kind.update version config package (some options))
  | .delete name => quietly (kind.delete version name)
  | .status name none => showing kind.status (kind.getStatus version name)
  | .status name (some id) =>
    showing kind.instanceStatus (kind.getInstanceStatus version name id)
  | .act name id action => quietly (kind.act version name id action)
  | .listBuiltin =>
    showing ConnectorDefinition.schema.codec.list (kind.listBuiltin version)
  | .reloadBuiltin => quietly (kind.reloadBuiltin version)

end ConnectorCommand

/-- What a command does. -/
def Command.exchange (profile : ApiProfile) : Command → Action
  | .listSubscriptions topic => do
    let topic ← readTopic topic
    showing (.list .string) (topic.subscriptions profile.topics)
  | .createSubscription topic name position => do
    let topic ← readTopic topic
    let position ← readPosition position
    quietly (Subscription.create profile.topics ⟨topic, name⟩ position)
  | .deleteSubscription topic name force => do
    let topic ← readTopic topic
    quietly (Subscription.delete profile.topics ⟨topic, name⟩ force)
  | .peek topic name count => do
    let topic ← readTopic topic
    let s : Subscription := ⟨topic, name⟩
    let messages ← (s.peek profile.topics count).mapError (.peek s)
    return .json (.array (messages.map Message.toJson))
  | .getMessage topic ledger entry => do
    let topic ← readTopic topic
    let message ← (topic.messageAt profile.topics ledger entry).mapError (.message ledger entry)
    return .json ((message.map Message.toJson).getD .null)
  | .resetCursor topic name (.message id) => do
    let topic ← readTopic topic
    let position ← readPosition id
    quietly (Subscription.resetToMessage profile.topics ⟨topic, name⟩ position)
  | .resetCursor topic name (.time time) => do
    let topic ← readTopic topic
    quietly (Subscription.resetToTime profile.topics ⟨topic, name⟩ time)
  | .skip topic name count => do
    let topic ← readTopic topic
    quietly (Subscription.skip profile.topics ⟨topic, name⟩ count)
  | .clearBacklog topic name => do
    let topic ← readTopic topic
    quietly (Subscription.clearBacklog profile.topics ⟨topic, name⟩)
  | .expire topic (some name) seconds => do
    let topic ← readTopic topic
    quietly (Subscription.expire profile.topics ⟨topic, name⟩ seconds)
  | .expire topic none seconds => do
    let topic ← readTopic topic
    quietly (topic.expireAll profile.topics seconds)
  | .listTenants => showing (.list .string) (Tenant.list profile.tenants)
  | .getTenant name => showing Tenant.schema.codec (Tenant.get profile.tenants name)
  | .createTenant tenant => quietly (tenant.create profile.tenants)
  | .updateTenant tenant => quietly (tenant.update profile.tenants)
  | .deleteTenant name => quietly (Tenant.delete profile.tenants name)
  | .getQuota (some bundle) =>
    showing ResourceQuota.schema.codec (ResourceQuota.get profile.resourceQuotas bundle)
  | .getQuota none =>
    showing ResourceQuota.schema.codec (ResourceQuota.getDefault profile.resourceQuotas)
  | .setQuota (some bundle) quota => quietly (ResourceQuota.set profile.resourceQuotas bundle quota)
  | .setQuota none quota => quietly (ResourceQuota.setDefault profile.resourceQuotas quota)
  | .resetQuota bundle => quietly (ResourceQuota.reset profile.resourceQuotas bundle)
  | .metrics =>
    showing MetricsGroup.schema.codec.list (BrokerStats.metrics profile.brokerStats)
  | .mbeans => showing MetricsGroup.schema.codec.list (BrokerStats.mbeans profile.brokerStats)
  | .topicStats => do
    let text ← (BrokerStats.topics profile.brokerStats).mapError .call
    return .text text
  | .loadReport => showing LoadReport.schema.codec (BrokerStats.loadReport profile.brokerStats)
  | .allocatorStats allocator =>
    showing AllocatorStats.schema.codec (BrokerStats.allocatorStats profile.brokerStats allocator)
  | .sinks command => command.exchange .sinks profile.sinks
  | .sources command => command.exchange .sources profile.sources

/-! ### Command lines -/

/-- A command line that has been read. -/
structure Invocation where
  /-- The options for the connection. -/
  connection : ConnectionOptions
  /-- The command. -/
  command : Command
  deriving DecidableEq, Repr

/-- What words mean in an environment. Options for the connection stand in front of the command. -/
def Invocation.ofWords (environment : Environment) (words : List String) :
    Except UsageFault Invocation := do
  let rules : Rules := { options := ConnectionOptions.rules, commands := groups.map (·.1) }
  let (m, rest) ← rules.read words
  let command ← Command.ofWords rest
  let m ← rules.complete environment m
  .ok ⟨.ofMatches m, command⟩

/-! ### Runs -/

/-- What comes of a command line. -/
structure Outcome where
  /-- What the caller is told: 0 for success, 1 for a failure, 2 for a refused command line. -/
  status : Nat
  /-- What is printed as the result. -/
  output : String := ""
  /-- What is printed as a complaint. -/
  complaint : String := ""
  deriving DecidableEq, Repr

namespace Outcome

/-- The outcome of a failure. -/
def ofChain (chain : List String) : Outcome where
  status := 1
  complaint := "Error: " ++ ": ".intercalate chain ++ "\n"

/-- The wording for a refused command line. -/
def usageText : UsageFault → String
  | .help => "Usage: pulsar-admin [OPTIONS] <GROUP> <COMMAND> ...\n"
  | .unknownArgument => "error: unexpected argument found\n"
  | .conflict => "error: an argument cannot be used here, or not twice\n"
  | .unexpectedValue => "error: unexpected value found\n"
  | .missingValue => "error: a value is required but none was supplied\n"
  | .invalidValue => "error: invalid value\n"
  | .missingArgument => "error: a required argument was not provided\n"
  | .unknownCommand => "error: unrecognized subcommand\n"
  | .missingCommand => "error: a subcommand is required\n"

/-- The outcome of a command line that is not carried out. -/
def ofUsage : UsageFault → Outcome
  | .help => { status := 0, output := usageText .help }
  | fault => { status := 2, complaint := usageText fault }

/-- The outcome of a command that is carried out. -/
def ofResult : Except Failure Output → Outcome
  | .ok output => { status := 0, output := output.toText }
  | .error failure => ofChain failure.chain

/-- The outcome if there can be no client. -/
def ofNoClient (error : Error) : Outcome := ofChain ("Failed to build admin client" :: error.chain)

end Outcome

/-- What a command line asks for: settings and a command, or the outcome at once. -/
def plan (environment : Environment) (words : List String) : Except Outcome (Settings × Command) := do
  let invocation ← (Invocation.ofWords environment words).mapError Outcome.ofUsage
  let connection := invocation.connection
  let settings ← connection.settings.mapError fun fault => .ofChain (connection.timeoutChain fault)
  .ok (settings, invocation.command)

/-- What comes of a command line, if it comes to an end, and the requests that have been sent. -/
def run (environment : Environment) (words : List String) (files : Files) (server : Http.Server) :
    Option Outcome × List Http.Outgoing :=
  match plan environment words with
  | .error outcome => (some outcome, [])
  | .ok (settings, command) =>
    match ((Http.Client.ofSettings settings).run files .unconnected []).1 with
    | none => (none, [])
    | some (.error error) => (some (.ofNoClient error), [])
    | some (.ok client) =>
      let (result, asked) :=
        (command.exchange settings.profile).run files (client.transport server) []
      (result.map .ofResult, server.sent asked)

end BrokerAdmin.CommandLine
