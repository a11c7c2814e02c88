import BrokerAdmin.Proofs.CommandLine.Rejected
import BrokerAdmin.Proofs.Endpoint.RoundTrip
import BrokerAdmin.Proofs.Http

/-!
# Runs are all or nothing

A run of a command line either prints all that its command has to show, and then what it asked for
has been carried out by the server, or it prints nothing. Whatever can be seen to be wrong without
the server ends the run before anything is sent. All commands but one make a single request, and
those that only look ask for nothing else.

All of this is known of the command alone. What a run adds is the way to the command: the words, the
time for a request, the address of the server and the certificates. Each of these may end the run,
and none of them sends anything. And it adds the way from the command to the server, where a reply
may lead on to another request. Only there is more sent than the command asks for, and only there
does a run succeed although a request was not answered with success.

## Main definitions

* `Invocation.Rejected`, `Invocation.IsMisdirected`: command lines that cannot be carried out.

## Main results

* `run_cases`: the run fails before its command, or it is that of its command.
* `run_atomic`: what may be expected of a run.
-/

namespace BrokerAdmin

open Exchange Result

variable {files : Files}

namespace Http.Client

theorem scheme_takeCredentials (url : Url) : (takeCredentials url).2.scheme = url.scheme := by
  rw [takeCredentials]
  split <;> rfl

theorem scheme_of_url {endpoint : Endpoint} {base url : Url} (h : endpoint.url base = .ok url) :
    url.scheme = base.scheme := by
  rw [Endpoint.url] at h
  split at h
  · cases h
  · obtain rfl := Except.ok.inj h
    rw [Url.appendQuery_eq]

/-- A request leaves with its method, and only for a server of the web. -/
theorem of_outgoing {client : Client} {request : Request} {out : Outgoing}
    (h : client.outgoing request = .ok out) : out.method = request.method ∧ client.base.IsWeb := by
  rw [outgoing, bind_eq_ok_iff] at h
  obtain ⟨url, hurl, h⟩ := h
  dsimp only at h
  split at h
  · split at h
    · next hreachable =>
      obtain rfl := Except.ok.inj h
      have hscheme : (takeCredentials url).2.IsWeb := by
        simp only [isReachable, Bool.and_eq_true, Bool.or_eq_true, decide_eq_true_eq] at hreachable
        exact hreachable.1
      rw [Url.IsWeb, scheme_takeCredentials, scheme_of_url hurl] at hscheme
      exact ⟨rfl, hscheme⟩
    · cases h
  · cases h

theorem isOffline_readCertificates (path : Option String) :
    (readCertificates path).IsOffline files := by
  cases path with
  | none => exact ⟨_, rfl⟩
  | some path =>
    refine IsOffline.bind (isOffline_ofExcept _) fun text => ?_
    split <;> exact ⟨_, rfl⟩

theorem isOffline_ofSettings (settings : Settings) : (ofSettings settings).IsOffline files :=
  (isOffline_ofExcept _).bind fun _ => (isOffline_readCertificates _).bind fun _ => ⟨_, rfl⟩

/-- A client has the address that its settings give. -/
theorem parse_of_ofSettings {settings : Settings} {client : Client}
    (h : (ofSettings settings).offline files = some (.ok client)) :
    Url.parse settings.webServiceUrl = .ok client.base := by
  rw [ofSettings] at h
  cases hbase : parseBase settings.webServiceUrl with
  | error error =>
    rw [hbase, offline_bind_error rfl] at h
    cases h
  | ok base =>
    rw [hbase, offline_bind_ok rfl] at h
    have hoffline : (readCertificates settings.trustedCertificates).IsOffline files :=
      isOffline_readCertificates _
    obtain ⟨result, hresult⟩ := hoffline
    cases result with
    | error error =>
      rw [offline_bind_error hresult] at h
      cases h
    | ok certificates =>
      rw [offline_bind_ok hresult] at h
      obtain rfl := Except.ok.inj (Option.some.inj h)
      exact mapError_eq_ok_iff.1 hbase

end Http.Client

namespace CommandLine

/-! ### Command lines that cannot be carried out -/

/-- What is wrong with a command line before anything is sent: the time for a request cannot be
read, the address of the server is none, or something is wrong with the command. -/
inductive Invocation.Rejected (files : Files) (invocation : Invocation) : Prop
  /-- The time cannot be read. -/
  | timeout {fault : Duration.Fault} :
      Duration.parse invocation.connection.requestTimeout = .error fault → Rejected files invocation
  /-- The address is none. -/
  | address {fault : Url.Fault} :
      Url.parse invocation.connection.webServiceUrl = .error fault → Rejected files invocation
  /-- Something is wrong with the command. -/
  | command : invocation.command.Rejected files → Rejected files invocation

/-- The address of the server is one that no request can be sent to. -/
def Invocation.IsMisdirected (invocation : Invocation) : Prop :=
  ∃ base, Url.parse invocation.connection.webServiceUrl = .ok base ∧ ¬ base.IsWeb

/-! ### Runs -/

/-- There are settings as soon as the time can be read, and they give the address as it is written.
-/
theorem settings_eq_ok {o : ConnectionOptions} {settings : Settings}
    (h : o.settings = .ok settings) : (∃ timeout, Duration.parse o.requestTimeout = .ok timeout) ∧
      settings.webServiceUrl = o.webServiceUrl := by
  obtain ⟨timeout, htimeout, h⟩ := bind_eq_ok_iff.1 h
  obtain rfl := Except.ok.inj h
  exact ⟨⟨timeout, htimeout⟩, rfl⟩

/-- **A run fails before its command** without sending anything, or it is that of its command. -/
theorem run_cases {environment : Environment} {words : List String} {invocation : Invocation}
    (hwords : Invocation.ofWords environment words = .ok invocation) (files : Files)
    (server : Http.Server) :
    (∃ complaint, run environment words files server = (some { status := 1, complaint }, [])) ∨
    ∃ (timeout : Duration) (client : Http.Client) (profile : ApiProfile)
        (result : Option (Except Failure Output)) (asked : List Http.Outgoing),
      Duration.parse invocation.connection.requestTimeout = .ok timeout ∧
      Url.parse invocation.connection.webServiceUrl = .ok client.base ∧
      (invocation.command.exchange profile).run files (client.transport server) [] =
        (result, asked) ∧
      run environment words files server =
        (result.map Outcome.ofResult, server.sent asked) := by
  rw [run, plan, hwords, mapError_ok, ok_bind]
  dsimp only
  cases hsettings : invocation.connection.settings with
  | error fault => exact .inl ⟨_, rfl⟩
  | ok settings =>
    obtain ⟨⟨timeout, htimeout⟩, hurl⟩ := settings_eq_ok hsettings
    rw [mapError_ok, ok_bind]
    dsimp only
    have hoffline : (Http.Client.ofSettings settings).IsOffline files :=
      Http.Client.isOffline_ofSettings settings
    obtain ⟨result, hresult⟩ := hoffline
    rw [run_of_offline hresult]
    cases result with
    | error error => exact .inl ⟨_, rfl⟩
    | ok client =>
      have hparse := Http.Client.parse_of_ofSettings hresult
      rw [hurl] at hparse
      exact .inr ⟨timeout, client, settings.profile, _, _, htimeout, hparse, rfl, rfl⟩

/-- What may be expected of a run that has come to its command. -/
theorem run_of_exchange {command : Command} {profile : ApiProfile} {client : Http.Client}
    {server : Http.Server} {result : Option (Except Failure Output)} {asked : List Http.Outgoing}
    (hrun : (command.exchange profile).run files (client.transport server) [] = (result, asked)) :
    (asked ≠ [] → client.base.IsWeb) ∧
    (command.isPeek = false → asked.length ≤ 1 ∧ result.isSome) ∧
    (command.isInspection = true → ∀ out ∈ asked, out.method = .get) ∧
    ∀ output, result = some (.ok output) → ∃ responses,
      Http.Carried server [] (server.sent asked) responses ∧
        command.Shows responses output.toText := by
  obtain ⟨asked', hasked, holds⟩ :=
    (command.exchange_meets profile files).run (client.transport server) []
  rw [hrun, List.nil_append] at hasked
  rw [hrun] at holds
  dsimp only at hasked holds
  obtain rfl := hasked
  -- Each request is one that the command may make.
  have hallowed : ∀ out ∈ asked, ∃ responses request, client.outgoing request = .ok out ∧
      (conduct command.isPeek command.isInspection command.Shows).allows responses request := by
    intro out hout
    obtain ⟨i, hi⟩ := List.mem_iff_getElem?.1 hout
    obtain ⟨responses, request, -, hallows, hrequest⟩ := holds.allowed i out hi
    exact ⟨responses, request, hrequest, hallows⟩
  refine ⟨fun hne => ?_, fun hpeek => ⟨?_, ?_⟩, fun hinspects out hout => ?_,
    fun output houtput => ?_⟩
  · obtain ⟨out, hout⟩ := List.exists_mem_of_ne_nil asked hne
    obtain ⟨-, request, hrequest, -⟩ := hallowed out hout
    exact (Http.Client.of_outgoing hrequest).2
  · by_contra hlong
    obtain ⟨responses, request, hlen, hallows, -⟩ :=
      holds.allowed 1 asked[1] (List.getElem?_eq_getElem (by omega))
    rw [hallows.1 hpeek] at hlen
    cases hlen
  · by_contra hnone
    have hendless := holds.endless (Option.not_isSome_iff_eq_none.1 hnone)
    rw [conduct, hpeek] at hendless
    cases hendless
  · obtain ⟨responses, request, hrequest, hallows⟩ := hallowed out hout
    rw [(Http.Client.of_outgoing hrequest).1]
    exact hallows.2 hinspects
  · obtain ⟨responses, hresponses, hshows⟩ := holds.value output houtput
    obtain ⟨sent, hsent, hcarried⟩ := Http.Server.carried_sent hresponses
    rw [List.nil_append, Http.Server.sent_nil, List.nil_append] at hsent
    exact ⟨responses, hsent ▸ hcarried, hshows⟩

/-- What a single request of a command may become. -/
theorem length_sent_of_single (server : Http.Server) {asked : List Http.Outgoing}
    (h : asked.length ≤ 1) :
    ((server.sent asked).length ≤ 1 ↔ ¬ Http.LedOn server [] (server.sent asked)) ∧
      (server.sent asked).length ≤ Http.Server.maxHops + 1 := by
  have hle : (server.sent asked).length ≤ asked.length * (Http.Server.maxHops + 1) :=
    server.length_sent_le asked
  have hequal := server.length_sent_eq_iff asked
  have hge := server.length_le_length_sent asked
  rw [← hequal]
  rcases Nat.le_one_iff_eq_zero_or_eq_one.1 h with hnone | hone
  · rw [hnone, Nat.zero_mul] at hle
    omega
  · rw [hone, Nat.one_mul] at hle
    omega

/-- **A run is all or nothing.** For every command line that is accepted, whatever the files hold
and whatever the server replies:

* if the time, the address, the topic, the message id, the settings or the archive can be seen to be
  wrong, or the address is none that a request can be sent to, then nothing is sent;
* every command but `peek` comes to an end, and at most one request is sent, exactly if no reply
  leads on to another;
* a command that only looks has nothing sent but requests of the method `get`;
* the run succeeds, and then what the command shows is printed as a whole, and every request has been
  answered with success, unless replies have led on, and then not all have; or the run fails and
  nothing is printed. -/
theorem run_atomic {environment : Environment} {words : List String} {invocation : Invocation}
    (hwords : Invocation.ofWords environment words = .ok invocation) {files : Files}
    {server : Http.Server} {outcome : Option Outcome} {sent : List Http.Outgoing}
    (hrun : run environment words files server = (outcome, sent)) :
    (invocation.Rejected files →
      sent = [] ∧ ∃ complaint, outcome = some { status := 1, complaint }) ∧
    (invocation.IsMisdirected → sent = []) ∧
    (invocation.command.isPeek = false →
      (sent.length ≤ 1 ↔ ¬ Http.LedOn server [] sent) ∧ sent.length ≤ Http.Server.maxHops + 1 ∧
        outcome.isSome) ∧
    (invocation.command.isInspection = true → ∀ out ∈ sent, out.method = .get) ∧
    ∀ o, outcome = some o →
      (o.status = 0 ∧ ∃ responses, Http.Carried server [] sent responses ∧
        invocation.command.Shows responses o.output ∧
        (¬ Http.LedOn server [] sent → Answered (Http.Fulfils server) [] sent responses) ∧
        (Http.LedOn server [] sent → ∀ answers, ¬ Answered (Http.Fulfils server) [] sent answers)) ∨
      (o.status = 1 ∧ o.output = "") := by
  rcases run_cases hwords files server with ⟨complaint, hfailed⟩ |
    ⟨timeout, client, profile, result, asked, htimeout, hbase, hresult, hcommand⟩
  · obtain ⟨rfl, rfl⟩ := Prod.mk.inj (hrun.symm.trans hfailed)
    refine ⟨fun _ => ⟨rfl, complaint, rfl⟩, fun _ => rfl, fun _ => ⟨?_, Nat.zero_le _, rfl⟩,
      fun _ out hout => (by cases hout), fun o ho => .inr ?_⟩
    · exact iff_of_true (Nat.zero_le _) Http.not_ledOn_nil
    · obtain rfl := Option.some.inj ho
      exact ⟨rfl, rfl⟩
  · obtain ⟨rfl, rfl⟩ := Prod.mk.inj (hrun.symm.trans hcommand)
    obtain ⟨hweb, honce, hinspects, hshows⟩ := run_of_exchange hresult
    refine ⟨fun hrejected => ?_, fun hmisdirected => ?_, fun hpeek => ?_,
      fun h => Http.Server.method_of_mem_sent (hinspects h), fun o ho => ?_⟩
    · cases hrejected with
      | timeout hfault =>
        rw [htimeout] at hfault
        cases hfault
      | address hfault =>
        rw [hbase] at hfault
        cases hfault
      | command hwrong =>
        obtain ⟨failure, hfails⟩ := hwrong.fails profile
        have hfailed := run_of_offline hfails (client.transport server) []
        obtain ⟨rfl, rfl⟩ := Prod.mk.inj (hresult.symm.trans hfailed)
        exact ⟨rfl, _, rfl⟩
    · obtain ⟨base, hparse, hforeign⟩ := hmisdirected
      obtain rfl := Except.ok.inj (hbase.symm.trans hparse)
      obtain rfl : asked = [] := by
        by_contra hne
        exact hforeign (hweb hne)
      rfl
    · obtain ⟨hlen, hends⟩ := honce hpeek
      obtain ⟨hsingle, hhops⟩ := length_sent_of_single server hlen
      exact ⟨hsingle, hhops, by rwa [Option.isSome_map]⟩
    · obtain ⟨result', hresult', rfl⟩ := Option.map_eq_some_iff.1 ho
      cases result' with
      | ok output =>
        obtain ⟨responses, hcarried, hprinted⟩ := hshows output hresult'
        exact .inl ⟨rfl, responses, hcarried, hprinted, hcarried.answered,
          fun hled answers hanswers => Http.not_ledOn_of_answered hanswers hled⟩
      | error failure => exact .inr ⟨rfl, rfl⟩

/-- A server that names one tenant, whatever it is asked. -/
def oneTenant : Http.Server := fun _ _ => .complete ⟨200, [], Utf8.encode "[\"a\"]"⟩

/-- A system without files. -/
def noFiles : Files := fun _ => .error .notFound

/-- A command line for a server on this machine. -/
def localWords (words : List String) : List String :=
  "--web-service-url" :: "http://[::1]:8080" :: words

/-- The options of such a command line. -/
def localConnection : ConnectionOptions := ⟨"http://[::1]:8080", none, none, false, false, "30s"⟩

/-- The tenants are asked for once and printed, since no reply leads on. A topic that is none is not
asked for. -/
theorem run_atomic_oneTenant :
    (∃ sent responses,
      run [] (localWords ["tenants", "list"]) noFiles oneTenant =
        (some { status := 0, output := "[\n  \"a\"\n]\n" }, sent) ∧
      sent.length ≤ 1 ∧ (∀ out ∈ sent, out.method = .get) ∧
      Answered (Http.Fulfils oneTenant) [] sent responses ∧
      Decoded (.list .string) responses "[\n  \"a\"\n]\n") ∧
    ∃ complaint,
      run [] (localWords ["subscriptions", "peek", "a//b", "s"]) noFiles oneTenant =
        (some { status := 1, complaint }, []) := by
  constructor
  · have hwords : Invocation.ofWords [] (localWords ["tenants", "list"]) =
        .ok ⟨localConnection, .listTenants⟩ := by decide +kernel
    have houtcome : (run [] (localWords ["tenants", "list"]) noFiles oneTenant).1 =
        some { status := 0, output := "[\n  \"a\"\n]\n" } := by decide +kernel
    have hlength : (run [] (localWords ["tenants", "list"]) noFiles oneTenant).2.length ≤ 1 := by
      decide +kernel
    obtain ⟨sent, hrun⟩ : ∃ sent, run [] (localWords ["tenants", "list"]) noFiles oneTenant =
        (some { status := 0, output := "[\n  \"a\"\n]\n" }, sent) :=
      ⟨(run [] (localWords ["tenants", "list"]) noFiles oneTenant).2, by rw [← houtcome]⟩
    rw [hrun] at hlength
    obtain ⟨-, -, honce, hinspects, hall⟩ := run_atomic hwords hrun
    have hled := (honce rfl).1.1 hlength
    rcases hall _ rfl with ⟨-, responses, -, hshows, hanswered, -⟩ | ⟨hstatus, -⟩
    · exact ⟨sent, responses, hrun, hlength, hinspects rfl, hanswered hled, hshows⟩
    · cases hstatus
  · have hwords : Invocation.ofWords [] (localWords ["subscriptions", "peek", "a//b", "s"]) =
        .ok ⟨localConnection, .peek "a//b" "s" 1⟩ := by decide +kernel
    obtain ⟨error, herror⟩ : ∃ error, TopicName.ofText "a//b" = .error error := ⟨_, rfl⟩
    obtain ⟨hrejected, -⟩ := run_atomic hwords (Eq.refl (run [] (localWords
      ["subscriptions", "peek", "a//b", "s"]) noFiles oneTenant))
    obtain ⟨hsent, complaint, houtcome⟩ := hrejected (.command (.topic rfl herror))
    exact ⟨complaint, Prod.ext houtcome hsent⟩

/-- A server that names another address at first, and one tenant there. -/
def movedTenant : Http.Server := fun before _ =>
  if before.isEmpty then .complete ⟨307, [("location", Utf8.encode "/elsewhere")], []⟩
  else .complete ⟨200, [], Utf8.encode "[\"a\"]"⟩

/-- Tenants that have moved are listed and the run succeeds, but two requests are sent, and the first
one is not answered with success. -/
theorem run_not_atomic_movedTenant :
    ∃ sent, run [] (localWords ["tenants", "list"]) noFiles movedTenant =
        (some { status := 0, output := "[\n  \"a\"\n]\n" }, sent) ∧
      sent.length = 2 ∧ ∀ answers, ¬ Answered (Http.Fulfils movedTenant) [] sent answers := by
  have houtcome : (run [] (localWords ["tenants", "list"]) noFiles movedTenant).1 =
      some { status := 0, output := "[\n  \"a\"\n]\n" } := by decide +kernel
  have hlength : (run [] (localWords ["tenants", "list"]) noFiles movedTenant).2.length = 2 := by
    decide +kernel
  obtain ⟨sent, hrun⟩ : ∃ sent, run [] (localWords ["tenants", "list"]) noFiles movedTenant =
      (some { status := 0, output := "[\n  \"a\"\n]\n" }, sent) :=
    ⟨(run [] (localWords ["tenants", "list"]) noFiles movedTenant).2, by rw [← houtcome]⟩
  rw [hrun] at hlength
  refine ⟨sent, hrun, hlength, fun answers hanswers => ?_⟩
  cases hanswers with
  | nil => cases hlength
  | cons hfulfils _ =>
    obtain ⟨hreply, -, hstatus⟩ := hfulfils
    simp only [movedTenant, List.isEmpty_nil, if_true, Http.Reply.complete.injEq] at hreply
    rw [← hreply] at hstatus
    exact absurd hstatus (by decide)

end CommandLine

end BrokerAdmin
