import BrokerAdmin.Proofs.CommandLine.Conduct
import BrokerAdmin.Proofs.Connector.Upload

/-!
# What is wrong before anything is sent

Much of what may be wrong with a command line can be seen without the server: a time that cannot be
read, an address that is none, a text that is no topic or no message id, a file that holds no
settings, an archive that cannot be had. It is said here by what was written and by what the files
hold. A command looks for these things one after the other, and whichever it finds first, it fails
before its request.

## Main definitions

* `ConnectorCommand.Rejected`, `Command.Rejected`: what is wrong.

## Main results

* `Command.Rejected.fails`: a command with something wrong fails without a request.
-/

namespace BrokerAdmin.CommandLine

open Exchange Result

variable {files : Files}

/-! ### Connectors -/

namespace ConnectorCommand

variable {C S I : Type} {kind : ConnectorKind C S I}

/-- The file that holds the settings. -/
def settingsFile? : ConnectorCommand → Option String
  | .create file _ | .update file _ _ => some file
  | _ => none

/-- The path of the archive. -/
def archive? : ConnectorCommand → Option String
  | .create _ (.archive path) | .update _ (.archive path) _ => path
  | _ => none

/-- What is wrong with a command for connectors: the file with the settings cannot be read, is no
text or holds something else, or the archive has no name or cannot be read. -/
inductive Rejected (kind : ConnectorKind C S I) (files : Files) (command : ConnectorCommand) : Prop
  /-- The settings cannot be read. -/
  | unreadable {path : String} {error : FileError} : command.settingsFile? = some path →
      files path = .error error → Rejected kind files command
  /-- The settings are no text. -/
  | notText {path : String} {content : Bytes} : command.settingsFile? = some path →
      files path = .ok content → Utf8.decode content = none → Rejected kind files command
  /-- The text is not that of settings. -/
  | notSettings {path text : String} {content : Bytes} {fault : Json.ReadFault} :
      command.settingsFile? = some path → files path = .ok content →
      Utf8.decode content = some text → kind.config.ofString text = .error fault →
      Rejected kind files command
  /-- The archive has no name. -/
  | namelessArchive {path : String} : command.archive? = some path →
      ¬ ConnectorKind.IsBuiltin path → FilePath.fileName path = none → Rejected kind files command
  /-- The archive cannot be read. -/
  | unreadableArchive {path : String} {error : FileError} : command.archive? = some path →
      ¬ ConnectorKind.IsBuiltin path → files path = .error error → Rejected kind files command

/-- Settings that cannot be had. -/
theorem fails_load {path : String} (h : ∀ content text, files path = .ok content →
      Utf8.decode content = some text → ∃ fault, kind.config.ofString text = .error fault) :
    (load kind path).Fails files := by
  refine Fails.mapError (IsOffline.fails_bind ((isOffline_textFile path).mapError _) ?_) _
  intro text htext
  rw [offline_mapError, offline_textFile, Option.map_some, Option.some.injEq, mapError_eq_ok_iff,
    bind_eq_ok_iff] at htext
  obtain ⟨content, hfile, hcontent⟩ := htext
  split at hcontent
  · next hdecode =>
    obtain rfl := Except.ok.inj hcontent
    obtain ⟨fault, hfault⟩ := h content _ hfile hdecode
    exact ⟨_, by rw [hfault, mapError_error, offline_ofExcept]⟩
  · cases hcontent

/-- An archive that cannot be had. -/
theorem fails_withArchive {form : Form} {path : String} (hbuiltin : ¬ ConnectorKind.IsBuiltin path)
    (h : FilePath.fileName path = none ∨ ∃ error, files path = .error error) :
    (ConnectorKind.withArchive form (some path)).Fails files := by
  rw [ConnectorKind.withArchive, if_neg (mt ConnectorKind.isBuiltin_iff.2 hbuiltin)]
  split
  · exact ⟨_, rfl⟩
  · next hname =>
    rcases h with hnone | ⟨error, herror⟩
    · rw [hname] at hnone
      cases hnone
    · refine Fails.bind ⟨.io error, ?_⟩ _
      rw [Exchange.file, offline, herror]
      rfl

theorem fails_quietly {call : Exchange Error Unit} (h : call.Fails files) :
    (quietly call).Fails files :=
  (h.mapError _).bind _

/-- **A command for connectors with something wrong** fails without a request. -/
theorem Rejected.fails {version : ApiVersion} {command : ConnectorCommand}
    (h : command.Rejected kind files) : (command.exchange kind version).Fails files := by
  -- What is wrong with the settings or with the archive, whichever command they are for.
  have hsettings : ∀ {path}, command.settingsFile? = some path → (load kind path).Fails files →
      (command.exchange kind version).Fails files := by
    intro path hpath hfails
    cases command <;> cases hpath
    all_goals exact hfails.bind _
  have harchive : ∀ {path}, command.archive? = some path →
      (∀ form, (ConnectorKind.withArchive form (some path)).Fails files) →
      (command.exchange kind version).Fails files := by
    intro path hpath hfails
    have hform : ∀ (config : C) (options : Option UpdateOptions),
        (kind.form config options (.archive (some path))).Fails files := fun _ _ => hfails _
    have hcreate : ∀ file, (ConnectorCommand.exchange kind version
        (.create file (.archive (some path)))).Fails files := fun file =>
      (isOffline_load file).fails_bind fun config _ => fails_quietly ((hform config none).bind _)
    have hupdate : ∀ file options, (ConnectorCommand.exchange kind version
        (.update file (.archive (some path)) options)).Fails files := fun file options =>
      (isOffline_load file).fails_bind fun config _ =>
        fails_quietly ((hform config (some options)).bind _)
    cases command with
    | create file package =>
      cases package with
      | archive path =>
        obtain rfl : path = some _ := hpath
        exact hcreate file
      | url _ => cases hpath
    | update file package options =>
      cases package with
      | archive path =>
        obtain rfl : path = some _ := hpath
        exact hupdate file options
      | url _ => cases hpath
    | _ => cases hpath
  cases h with
  | unreadable hpath hfile =>
    refine hsettings hpath (fails_load fun content text hcontent => ?_)
    rw [hfile] at hcontent
    cases hcontent
  | notText hpath hfile htext =>
    refine hsettings hpath (fails_load fun content text hcontent hdecode => ?_)
    rw [hfile] at hcontent
    obtain rfl := Except.ok.inj hcontent
    rw [htext] at hdecode
    cases hdecode
  | notSettings hpath hfile htext hfault =>
    refine hsettings hpath (fails_load fun content text hcontent hdecode => ?_)
    rw [hfile] at hcontent
    obtain rfl := Except.ok.inj hcontent
    rw [htext] at hdecode
    obtain rfl := Option.some.inj hdecode
    exact ⟨_, hfault⟩
  | namelessArchive hpath hbuiltin hname =>
    exact harchive hpath fun form => fails_withArchive hbuiltin (.inl hname)
  | unreadableArchive hpath hbuiltin hfile =>
    exact harchive hpath fun form => fails_withArchive hbuiltin (.inr ⟨_, hfile⟩)

end ConnectorCommand

/-! ### Commands -/

namespace Command

/-- The text of the topic. -/
def topic? : Command → Option String
  | .listSubscriptions topic | .createSubscription topic .. | .deleteSubscription topic ..
  | .peek topic .. | .getMessage topic .. | .resetCursor topic .. | .skip topic ..
  | .clearBacklog topic .. | .expire topic .. => some topic
  | _ => none

/-- The text of the message id. -/
def messageId? : Command → Option String
  | .createSubscription _ _ id | .resetCursor _ _ (.message id) => some id
  | _ => none

/-- What is wrong with a command: its topic or its message id is none, or it is a command for
connectors with something wrong. -/
inductive Rejected (files : Files) (command : Command) : Prop
  /-- The topic is none. -/
  | topic {text : String} {error : ValueError} : command.topic? = some text →
      TopicName.ofText text = .error error → Rejected files command
  /-- The message id is none, and does not say where the end of the topic is. -/
  | messageId {text : String} {error : ValueError} : command.messageId? = some text →
      Headers.lower text ≠ "latest" → MessageId.ofText text = .error error → Rejected files command
  /-- Something is wrong with a command for sinks. -/
  | sinks {c : ConnectorCommand} : command = .sinks c → c.Rejected .sinks files →
      Rejected files command
  /-- Something is wrong with a command for sources. -/
  | sources {c : ConnectorCommand} : command = .sources c → c.Rejected .sources files →
      Rejected files command

/-- **A command with something wrong** fails without a request. -/
theorem Rejected.fails {command : Command} (h : command.Rejected files) (profile : ApiProfile) :
    (command.exchange profile).Fails files := by
  cases h with
  | @topic text error htext herror =>
    have hfails : (readTopic text).Fails files :=
      ⟨.topic text error, by rw [offline_readTopic, herror]; rfl⟩
    cases command with
    | resetCursor _ _ target => cases target <;> cases htext <;> exact hfails.bind _
    | expire _ name _ => cases name <;> cases htext <;> exact hfails.bind _
    | _ => cases htext <;> exact hfails.bind _
  | @messageId text error htext hlatest herror =>
    have hfails : (readPosition text).Fails files := by
      refine ⟨.messageId text error, ?_⟩
      rw [readPosition, if_neg hlatest, offline_ofExcept, herror]
      rfl
    have hbehind : ∀ name (next : TopicName → MessageId → Action),
        (readTopic name >>= fun t => readPosition text >>= next t).Fails files :=
      fun name next => IsOffline.fails_bind ⟨_, offline_readTopic name⟩ fun _ _ => hfails.bind _
    cases command with
    | createSubscription name _ id =>
      obtain rfl := Option.some.inj htext
      exact hbehind name _
    | resetCursor name _ target =>
      cases target with
      | message id =>
        obtain rfl := Option.some.inj htext
        exact hbehind name _
      | time _ => cases htext
    | _ => cases htext
  | sinks hcommand hrejected =>
    subst hcommand
    exact hrejected.fails
  | sources hcommand hrejected =>
    subst hcommand
    exact hrejected.fails

end Command

end BrokerAdmin.CommandLine
