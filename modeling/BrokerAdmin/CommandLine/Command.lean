import BrokerAdmin.CommandLine.Grammar
import BrokerAdmin.Connector.File
import BrokerAdmin.ResourceQuota
import BrokerAdmin.Subscription
import BrokerAdmin.Tenant

/-!
# Commands

A command is named by two words, a group and a member of it, such as `tenants list`. What may follow is
said in a table, together with how the command is made from what has been written. Topics and message
ids stay text here: a text that denotes none is a failure of the command and not of the command line.

## Main definitions

* `Command`, `ConnectorCommand`: the commands.
* `Entry`: a command in the table, with what may follow its name.
* `groups`: the table.
* `Command.ofWords`: the command that words name.
-/

namespace BrokerAdmin.CommandLine

/-- Where a cursor is moved to. -/
inductive CursorTarget where
  /-- To a message, given by the text of its id. -/
  | message (id : String)
  /-- To a time in milliseconds since 1970. -/
  | time (time : Int)
  deriving DecidableEq, Repr

/-- The commands for connectors of one kind. -/
inductive ConnectorCommand where
  /-- List the connectors of a namespace. -/
  | list (tenant ofNamespace : String)
  /-- Show the settings of a connector. -/
  | get (name : ConnectorName)
  /-- Make a connector from the settings in a file. -/
  | create (file : String) (package : Package)
  /-- Change a connector to the settings in a file. -/
  | update (file : String) (package : Package) (options : UpdateOptions)
  /-- Remove a connector. -/
  | delete (name : ConnectorName)
  /-- Show how a connector or one of its instances is doing. -/
  | status (name : ConnectorName) (id : Option Int)
  /-- Tell a connector or one of its instances what to do. -/
  | act (name : ConnectorName) (id : Option Int) (action : ConnectorAction)
  /-- List the connectors that come with the cluster. -/
  | listBuiltin
  /-- Let the server look for these again. -/
  | reloadBuiltin
  deriving DecidableEq, Repr

/-- The commands. -/
inductive Command where
  /-- List the subscriptions of a topic. -/
  | listSubscriptions (topic : String)
  /-- Make a subscription. -/
  | createSubscription (topic name position : String)
  /-- Remove a subscription. -/
  | deleteSubscription (topic name : String) (force : Bool)
  /-- Show messages in front of a cursor. -/
  | peek (topic name : String) (count : Nat)
  /-- Show the message at an address. -/
  | getMessage (topic : String) (ledger entry : Int)
  /-- Move a cursor. -/
  | resetCursor (topic name : String) (target : CursorTarget)
  /-- Skip messages. -/
  | skip (topic name : String) (count : Int)
  /-- Skip all messages. -/
  | clearBacklog (topic name : String)
  /-- Let messages expire, of one subscription or of all. -/
  | expire (topic : String) (name : Option String) (seconds : Int)
  /-- List the tenants. -/
  | listTenants
  /-- Show a tenant. -/
  | getTenant (name : String)
  /-- Make a tenant. -/
  | createTenant (tenant : Tenant)
  /-- Change a tenant. -/
  | updateTenant (tenant : Tenant)
  /-- Remove a tenant. -/
  | deleteTenant (name : String)
  /-- Show the quota of a bundle, or of new bundles. -/
  | getQuota (bundle : Option Bundle)
  /-- Set the quota of a bundle, or of new bundles. -/
  | setQuota (bundle : Option Bundle) (quota : ResourceQuota)
  /-- Take its own quota from a bundle. -/
  | resetQuota (bundle : Bundle)
  /-- Show the figures for monitoring. -/
  | metrics
  /-- Show the figures of the runtime. -/
  | mbeans
  /-- Show the statistics of the topics. -/
  | topicStats
  /-- Show how busy the server is. -/
  | loadReport
  /-- Show how memory is used. -/
  | allocatorStats (allocator : String)
  /-- Administer sinks. -/
  | sinks (command : ConnectorCommand)
  /-- Administer sources. -/
  | sources (command : ConnectorCommand)
  deriving DecidableEq, Repr

/-! ### Values -/

/-- Refuse a value that is no integer of a range. -/
def refuseInteger (range : IntegerRange) (s : String) : Option UsageFault :=
  match range.read s with
  | .ok _ => none
  | .error _ => some .invalidValue

/-- Refuse a value that is no decimal number. -/
def refuseDecimal (s : String) : Option UsageFault :=
  if (Binary64.ofText s).isSome then none else some .invalidValue

/-- An option that takes an integer. -/
def integerRule (name : String) (range : IntegerRange) (letter : Option Char := none) : OptionRule :=
  { name, letter, refuses := refuseInteger range }

/-- An option that takes a decimal number. -/
def decimalRule (name : String) : OptionRule := { name, refuses := refuseDecimal }

/-- An option that takes a path. -/
def pathRule (name : String) : OptionRule := { name, refuses := refuseEmpty }

namespace Matches

/-- The value of an option that must be given. -/
def required (m : Matches) (name : String) : Except UsageFault String :=
  match m.value? name with
  | some s => .ok s
  | none => .error .missingArgument

/-- The integer that an option gives. -/
def integer? (m : Matches) (name : String) (range : IntegerRange) :
    Except UsageFault (Option Int) :=
  match m.value? name with
  | none => .ok none
  | some s =>
    match range.read s with
    | .ok n => .ok (some n)
    | .error _ => .error .invalidValue

/-- The integer of an option that must be given. -/
def integer (m : Matches) (name : String) (range : IntegerRange) : Except UsageFault Int := do
  match ← m.integer? name range with
  | some n => .ok n
  | none => .error .missingArgument

/-- The number that an option gives, or the usual one. -/
def decimal (m : Matches) (name : String) (usual : Binary64) : Except UsageFault Binary64 :=
  match m.value? name with
  | none => .ok usual
  | some s =>
    match Binary64.ofText s with
    | some x => .ok x
    | none => .error .invalidValue

/-- The bundle that two options name together. -/
def bundle? (m : Matches) : Except UsageFault (Option Bundle) :=
  match m.value? "namespace", m.value? "bundle" with
  | some ofNamespace, some range => .ok (some ⟨ofNamespace, range⟩)
  | none, none => .ok none
  | _, _ => .error .missingArgument

/-- The quota that options describe. -/
def quota (m : Matches) : Except UsageFault ResourceQuota := do
  let usual := ResourceQuota.standard
  let msgRateIn ← m.decimal "msg-rate-in" usual.msgRateIn
  let msgRateOut ← m.decimal "msg-rate-out" usual.msgRateOut
  let bandwidthIn ← m.decimal "bandwidth-in" usual.bandwidthIn
  let bandwidthOut ← m.decimal "bandwidth-out" usual.bandwidthOut
  let memory ← m.decimal "memory" usual.memory
  .ok { msgRateIn, msgRateOut, bandwidthIn, bandwidthOut, memory, dynamic := !m.flag "fixed" }

/-- The tenant that an operand and options describe. -/
def tenant (m : Matches) : Tenant :=
  ⟨m.operand 0, m.values "admin-roles", m.values "allowed-clusters"⟩

/-- Where options say that a cursor is moved to: exactly one of them must. -/
def cursorTarget (m : Matches) : Except UsageFault CursorTarget := do
  match m.value? "message-id", ← m.integer? "timestamp" (.signed 64) with
  | some id, none => .ok (.message id)
  | none, some time => .ok (.time time)
  | some _, some _ => .error .conflict
  | none, none => .error .missingArgument

/-- The name of a connector, which three operands give. -/
def connectorName (m : Matches) : ConnectorName := ⟨m.operand 0, m.operand 1, m.operand 2⟩

/-- Where options say that an archive comes from. -/
def package (m : Matches) : Except UsageFault Package :=
  match m.value? "archive", m.value? "url" with
  | some _, some _ => .error .conflict
  | archive, none => .ok (.archive archive)
  | none, some url => .ok (.url url)

end Matches

/-! ### The table -/

/-- A command in the table. -/
structure Entry (α : Type) where
  /-- The name. -/
  name : String
  /-- The number of operands. -/
  operands : Nat := 0
  /-- The options. -/
  options : List OptionRule := []
  /-- The command that has been written. -/
  make : Matches → Except UsageFault α

/-- An entry whose command is used in another way. -/
def Entry.map {α β : Type} (f : α → β) (e : Entry α) : Entry β where
  name := e.name
  operands := e.operands
  options := e.options
  make m := (e.make m).map f

/-- The commands for subscriptions. -/
def subscriptionEntries : List (Entry Command) := [
  { name := "list", operands := 1
    make := fun m => .ok (.listSubscriptions (m.operand 0)) },
  { name := "create", operands := 2, options := [{ name := "message-id" }]
    make := fun m => .ok (.createSubscription (m.operand 0) (m.operand 1)
      ((m.value? "message-id").getD "latest")) },
  { name := "delete", operands := 2, options := [{ name := "force", form := .flag }]
    make := fun m => .ok (.deleteSubscription (m.operand 0) (m.operand 1) (m.flag "force")) },
  { name := "peek", operands := 2, options := [integerRule "count" (.unsigned 64) (some 'n')]
    make := fun m => do
      let count ← m.integer? "count" (.unsigned 64)
      .ok (.peek (m.operand 0) (m.operand 1) (count.getD 1).toNat) },
  { name := "get-message", operands := 1
    options := [integerRule "ledger-id" (.signed 64), integerRule "entry-id" (.signed 64)]
    make := fun m => do
      let ledger ← m.integer "ledger-id" (.signed 64)
      let entry ← m.integer "entry-id" (.signed 64)
      .ok (.getMessage (m.operand 0) ledger entry) },
  { name := "reset-cursor", operands := 2
    options := [{ name := "message-id" }, integerRule "timestamp" (.signed 64)]
    make := fun m => do
      let target ← m.cursorTarget
      .ok (.resetCursor (m.operand 0) (m.operand 1) target) },
  { name := "skip", operands := 2, options := [integerRule "count" (.signed 64) (some 'n')]
    make := fun m => do
      let count ← m.integer "count" (.signed 64)
      .ok (.skip (m.operand 0) (m.operand 1) count) },
  { name := "clear-backlog", operands := 2
    make := fun m => .ok (.clearBacklog (m.operand 0) (m.operand 1)) },
  { name := "expire", operands := 1
    options := [{ name := "subscription" }, integerRule "expire-secs" (.signed 64)]
    make := fun m => do
      let seconds ← m.integer "expire-secs" (.signed 64)
      .ok (.expire (m.operand 0) (m.value? "subscription") seconds) }]

/-- The options that describe a tenant. -/
def tenantOptions : List OptionRule :=
  [{ name := "admin-roles", form := .values }, { name := "allowed-clusters", form := .values }]

/-- The commands for tenants. -/
def tenantEntries : List (Entry Command) := [
  { name := "list", make := fun _ => .ok .listTenants },
  { name := "get", operands := 1, make := fun m => .ok (.getTenant (m.operand 0)) },
  { name := "create", operands := 1, options := tenantOptions
    make := fun m => .ok (.createTenant m.tenant) },
  { name := "update", operands := 1, options := tenantOptions
    make := fun m => .ok (.updateTenant m.tenant) },
  { name := "delete", operands := 1, make := fun m => .ok (.deleteTenant (m.operand 0)) }]

/-- The options that name a bundle. -/
def bundleOptions : List OptionRule := [{ name := "namespace" }, { name := "bundle" }]

/-- The commands for quotas. -/
def quotaEntries : List (Entry Command) := [
  { name := "get", options := bundleOptions
    make := fun m => do .ok (.getQuota (← m.bundle?)) },
  { name := "set"
    options := bundleOptions ++ [decimalRule "msg-rate-in", decimalRule "msg-rate-out",
      decimalRule "bandwidth-in", decimalRule "bandwidth-out", decimalRule "memory",
      { name := "fixed", form := .flag }]
    make := fun m => do
      let bundle ← m.bundle?
      .ok (.setQuota bundle (← m.quota)) },
  { name := "reset", options := bundleOptions
    make := fun m => do
      match ← m.bundle? with
      | some bundle => .ok (.resetQuota bundle)
      | none => .error .missingArgument }]

/-- The commands for statistics. -/
def statsEntries : List (Entry Command) := [
  { name := "metrics", make := fun _ => .ok .metrics },
  { name := "mbeans", make := fun _ => .ok .mbeans },
  { name := "topics", make := fun _ => .ok .topicStats },
  { name := "load-report", make := fun _ => .ok .loadReport },
  { name := "allocator-stats", operands := 1
    make := fun m => .ok (.allocatorStats (m.operand 0)) }]

/-- The options that say what a connector is made from. -/
def packageOptions : List OptionRule :=
  [pathRule "config-file", pathRule "archive", { name := "url" }]

/-- The option that chooses an instance. -/
def instanceOptions : List OptionRule := [integerRule "instance-id" (.signed 32)]

/-- A command that tells a connector what to do. -/
def actionEntry (action : ConnectorAction) : Entry ConnectorCommand where
  name := action.toText
  operands := 3
  options := instanceOptions
  make m := do
    let id ← m.integer? "instance-id" (.signed 32)
    .ok (.act m.connectorName id action)

/-- The commands for connectors of one kind. -/
def connectorEntries : List (Entry ConnectorCommand) := [
  { name := "list", operands := 2, make := fun m => .ok (.list (m.operand 0) (m.operand 1)) },
  { name := "get", operands := 3, make := fun m => .ok (.get m.connectorName) },
  { name := "create", options := packageOptions
    make := fun m => do
      let file ← m.required "config-file"
      .ok (.create file (← m.package)) },
  { name := "update", options := packageOptions ++ [{ name := "update-auth-data", form := .flag }]
    make := fun m => do
      let file ← m.required "config-file"
      .ok (.update file (← m.package) ⟨m.flag "update-auth-data"⟩) },
  { name := "delete", operands := 3, make := fun m => .ok (.delete m.connectorName) },
  { name := "status", operands := 3, options := instanceOptions
    make := fun m => do
      let id ← m.integer? "instance-id" (.signed 32)
      .ok (.status m.connectorName id) },
  actionEntry .restart,
  actionEntry .stop,
  actionEntry .start,
  { name := "builtin", make := fun _ => .ok .listBuiltin },
  { name := "reload-builtin", make := fun _ => .ok .reloadBuiltin }]

/-- The groups of commands. -/
def groups : List (String × List (Entry Command)) := [
  ("subscriptions", subscriptionEntries),
  ("tenants", tenantEntries),
  ("resource-quotas", quotaEntries),
  ("broker-stats", statsEntries),
  ("sinks", connectorEntries.map (.map .sinks)),
  ("sources", connectorEntries.map (.map .sources))]

/-! ### Reading commands -/

/-- Read what follows the name of a command. -/
def Entry.read {α : Type} (entry : Entry α) (words : List String) : Except UsageFault α := do
  let rules : Rules := { options := entry.options, operands := entry.operands }
  let (m, _) ← rules.read words
  if m.operands.length < entry.operands then .error .missingArgument else entry.make m

/-- What is wrong with the words behind `help`: nothing, if they name something. -/
def explain (names : List String) : List String → UsageFault
  | [] => .help
  | [name] => if names.contains name || name = "help" then .help else .unknownCommand
  | _ => .unknownCommand

/-- Read what follows the name of a group. -/
def readGroup {α : Type} (entries : List (Entry α)) (words : List String) : Except UsageFault α := do
  let rules : Rules := { commands := entries.map (·.name) }
  let (_, rest) ← rules.read words
  match rest with
  | [] => .error .missingCommand
  | name :: words =>
    match entries.find? (·.name = name) with
    | some entry => entry.read words
    | none => .error (explain rules.commands words)

/-- The command that words name; the first one names a group. -/
def Command.ofWords : List String → Except UsageFault Command
  | [] => .error .missingCommand
  | name :: words =>
    match groups.find? (·.1 = name) with
    | some (_, entries) => readGroup entries words
    | none =>
      match words with
      | group :: words =>
        match groups.find? (·.1 = group) with
        | some (_, entries) => .error (explain (entries.map (·.name)) words)
        | none => .error (explain [] (group :: words))
      | [] => .error .help

end BrokerAdmin.CommandLine
