import BrokerAdmin.Proofs.Exchange
import BrokerAdmin.Proofs.Result

/-!
# What exchanges keep to

A contract says what may be expected of an exchange, whatever it is answered: which requests it may
send once it has had some answers, which values it may give in the end, and whether it may go on for
ever. It also says that an error in place of an answer is never passed over: the exchange fails at
once. A contract is met by the tree of turns, so it is checked turn by turn and without a transport.

What is checked on the tree holds of every run. A value then is proof that all requests have been
answered, and it is a value that the contract allows for exactly these answers.

An exchange may also come to its end without any request. What comes of it is then settled by the
files alone.

## Main definitions

* `Contract`, `Exchange.Meets`: what may be expected, and that an exchange keeps to it.
* `Answered`: requests with their answers, in turn.
* `Contract.Holds`: what a contract means for a run.
* `Exchange.offline`, `Exchange.Fails`: what comes of an exchange that sends nothing, and that it is
  an error.

## Main results

* `Exchange.Meets.run`: every run keeps to what the exchange keeps to.
* `Exchange.run_of_offline`: what is settled by the files, and that nothing is sent.
-/

namespace BrokerAdmin

open Result

variable {ε ε' α β ω : Type}

/-- What may be expected of an exchange. -/
structure Contract (α : Type) where
  /-- Whether it may go on for ever. -/
  endless : Prop
  /-- Which requests it may send once it has had some answers. -/
  allows : List Response → Request → Prop
  /-- Which values it may give once it has had all its answers. -/
  gives : List Response → α → Prop

namespace Contract

/-- What is left of a contract behind an answer. -/
def after (c : Contract α) (response : Response) : Contract α where
  endless := c.endless
  allows responses := c.allows (response :: responses)
  gives responses := c.gives (response :: responses)

/-- The contract for what another value is made of. -/
def before (c : Contract β) (f : α → β) : Contract α where
  endless := c.endless
  allows := c.allows
  gives responses value := c.gives responses (f value)

end Contract

namespace Exchange

variable {files : Files}

/-- An exchange keeps to a contract, with the given files. -/
def Meets (files : Files) : Exchange ε α → Contract α → Prop
  | .done value, c => c.gives [] value
  | .fail _, _ => True
  | .endless, c => c.endless
  | .readFile path next, c => (next (files path)).Meets files c
  | .send request next, c =>
    c.allows [] request ∧ (∀ error, ∃ error', next (.error error) = .fail error') ∧
      ∀ response, (next (.ok response)).Meets files (c.after response)

/-! ### Contracts of exchanges that are put together -/

theorem meets_ofExcept {result : Except ε α} {c : Contract α}
    (h : ∀ value, result = .ok value → c.gives [] value) : (ofExcept result).Meets files c := by
  cases result with
  | error error => trivial
  | ok value => exact h value rfl

/-- A request, and what is made of its answer. -/
theorem meets_ask_bind {request : Request} {next : Response → Exchange Error α} {c : Contract α}
    (hallows : c.allows [] request)
    (h : ∀ response, (next response).Meets files (c.after response)) :
    (ask request >>= next).Meets files c :=
  ⟨hallows, fun error => ⟨error, rfl⟩, h⟩

theorem Meets.mapError {e : Exchange ε α} {c : Contract α} (h : e.Meets files c) (f : ε → ε') :
    (e.mapError f).Meets files c := by
  induction e generalizing c with
  | done value => exact h
  | fail error => trivial
  | endless => exact h
  | readFile path next ih => exact ih _ h
  | send request next ih =>
    obtain ⟨hallows, hfails, hnext⟩ := h
    refine ⟨hallows, fun error => ?_, fun response => ih _ (hnext response)⟩
    obtain ⟨error', herror⟩ := hfails error
    exact ⟨f error', congrArg (Exchange.mapError f) herror⟩

/-- The value of an exchange may be made into another one. -/
theorem Meets.map {e : Exchange ε α} {f : α → β} {c : Contract β} (h : e.Meets files (c.before f)) :
    (e >>= fun value => .done (f value)).Meets files c := by
  induction e generalizing c with
  | done value => exact h
  | fail error => trivial
  | endless => exact h
  | readFile path next ih => exact ih _ h
  | send request next ih =>
    obtain ⟨hallows, hfails, hnext⟩ := h
    refine ⟨hallows, fun error => ?_, fun response => ih _ (hnext response)⟩
    obtain ⟨error', herror⟩ := hfails error
    exact ⟨error', congrArg (· >>= fun value => Exchange.done (f value)) herror⟩

theorem meets_order {method : Method} {endpoint : Endpoint} {content : Content} {c : Contract Unit}
    (hallows : c.allows [] { method, endpoint, content }) (h : ∀ response, c.gives [response] ()) :
    (order method endpoint content).Meets files c :=
  meets_ask_bind hallows h

theorem meets_fetch {endpoint : Endpoint} {c : Contract Bytes}
    (hallows : c.allows [] { method := .get, endpoint })
    (h : ∀ response, c.gives [response] response.body) : (fetch endpoint).Meets files c :=
  meets_ask_bind hallows h

theorem meets_get {codec : Json.Codec α} {endpoint : Endpoint} {c : Contract α}
    (hallows : c.allows [] { method := .get, endpoint })
    (h : ∀ response value, codec.ofBytes response.body = .ok value → c.gives [response] value) :
    (get codec endpoint).Meets files c :=
  meets_ask_bind hallows fun response => meets_ofExcept fun value hvalue =>
    h response value (mapError_eq_ok_iff.1 hvalue)

/-- A request for messages, and what is made of them. -/
theorem meets_messages_bind {topic : TopicName} {endpoint : Endpoint}
    {next : List Message → Exchange Error α} {c : Contract α}
    (hallows : c.allows [] { method := .get, endpoint, withHeaders := true })
    (h : ∀ response found, response.messages topic.toText = .ok found →
      (next found).Meets files (c.after response)) :
    (messages topic endpoint >>= next).Meets files c := by
  refine ⟨hallows, fun error => ⟨error, rfl⟩, fun response => ?_⟩
  change (ofExcept (response.messages topic.toText) >>= next).Meets files _
  cases hfound : response.messages topic.toText with
  | error error => trivial
  | ok found => exact h response found hfound

/-! ### Exchanges that send nothing -/

/-- What comes of an exchange that sends nothing and ends. -/
def offline (files : Files) : Exchange ε α → Option (Except ε α)
  | .done value => some (.ok value)
  | .fail error => some (.error error)
  | .endless => none
  | .readFile path next => (next (files path)).offline files
  | .send _ _ => none

/-- **What the files settle** comes of every run, and nothing is sent. -/
theorem run_of_offline {e : Exchange ε α} {result : Except ε α}
    (h : e.offline files = some result) (transport : Transport ω) (log : List ω) :
    e.run files transport log = (some result, log) := by
  induction e with
  | done value => rw [run_done, ← Option.some.inj h]
  | fail error => rw [run_fail, ← Option.some.inj h]
  | endless => cases h
  | readFile path next ih => exact ih _ h
  | send request next ih => cases h

theorem offline_ofExcept (result : Except ε α) : (ofExcept result).offline files = some result := by
  cases result <;> rfl

theorem offline_mapError (e : Exchange ε α) (f : ε → ε') :
    (e.mapError f).offline files = (e.offline files).map (·.mapError f) := by
  induction e with
  | done value => rfl
  | fail error => rfl
  | endless => rfl
  | readFile path next ih => exact ih _
  | send request next ih => rfl

/-- What has failed without a request is not gone on with. -/
theorem offline_bind_error {e : Exchange ε α} {error : ε}
    (h : e.offline files = some (.error error)) (next : α → Exchange ε β) :
    (e >>= next).offline files = some (.error error) := by
  induction e with
  | done value => cases h
  | fail error' => rw [bind_fail, offline, Except.error.inj (Option.some.inj h)]
  | endless => cases h
  | readFile path following ih => exact ih _ h
  | send request following ih => cases h

theorem offline_bind_ok {e : Exchange ε α} {value : α} (h : e.offline files = some (.ok value))
    (next : α → Exchange ε β) : (e >>= next).offline files = (next value).offline files := by
  induction e with
  | done value' => rw [bind_done, Except.ok.inj (Option.some.inj h)]
  | fail error => cases h
  | endless => cases h
  | readFile path following ih => exact ih _ h
  | send request following ih => cases h

/-- An exchange ends without a request, whatever comes of it. -/
def IsOffline (files : Files) (e : Exchange ε α) : Prop := ∃ result, e.offline files = some result

theorem isOffline_ofExcept (result : Except ε α) : (ofExcept result).IsOffline files :=
  ⟨result, offline_ofExcept result⟩

theorem IsOffline.mapError {e : Exchange ε α} (h : e.IsOffline files) (f : ε → ε') :
    (e.mapError f).IsOffline files := by
  obtain ⟨result, hresult⟩ := h
  exact ⟨result.mapError f, by rw [offline_mapError, hresult]; rfl⟩

theorem IsOffline.bind {e : Exchange ε α} {next : α → Exchange ε β} (h : e.IsOffline files)
    (hnext : ∀ value, (next value).IsOffline files) : (e >>= next).IsOffline files := by
  obtain ⟨result, hresult⟩ := h
  cases result with
  | error error => exact ⟨_, offline_bind_error hresult next⟩
  | ok value =>
    obtain ⟨result', hresult'⟩ := hnext value
    exact ⟨result', (offline_bind_ok hresult next).trans hresult'⟩

/-- An exchange fails without a request. -/
def Fails (files : Files) (e : Exchange ε α) : Prop :=
  ∃ error, e.offline files = some (.error error)

theorem Fails.mapError {e : Exchange ε α} (h : e.Fails files) (f : ε → ε') :
    (e.mapError f).Fails files := by
  obtain ⟨error, herror⟩ := h
  exact ⟨f error, by rw [offline_mapError, herror]; rfl⟩

theorem Fails.bind {e : Exchange ε α} (h : e.Fails files) (next : α → Exchange ε β) :
    (e >>= next).Fails files := by
  obtain ⟨error, herror⟩ := h
  exact ⟨error, offline_bind_error herror next⟩

/-- An exchange fails with what comes behind a first part that sends nothing. -/
theorem IsOffline.fails_bind {e : Exchange ε α} {next : α → Exchange ε β} (h : e.IsOffline files)
    (hnext : ∀ value, e.offline files = some (.ok value) → (next value).Fails files) :
    (e >>= next).Fails files := by
  obtain ⟨result, hresult⟩ := h
  cases result with
  | error error => exact Fails.bind ⟨error, hresult⟩ next
  | ok value =>
    obtain ⟨error, herror⟩ := hnext value hresult
    exact ⟨error, (offline_bind_ok hresult next).trans herror⟩

/-- What the files settle needs no contract. -/
theorem meets_bind_of_offline {e : Exchange ε α} {result : Except ε α}
    (he : e.offline files = some result) {next : α → Exchange ε β} {c : Contract β}
    (h : ∀ value, result = .ok value → (next value).Meets files c) :
    (e >>= next).Meets files c := by
  induction e with
  | done value => exact h value (Option.some.inj he).symm
  | fail error => trivial
  | endless => cases he
  | readFile path following ih => exact ih _ he
  | send request following ih => cases he

theorem IsOffline.meets_bind {e : Exchange ε α} (he : e.IsOffline files) {next : α → Exchange ε β}
    {c : Contract β} (h : ∀ value, (next value).Meets files c) : (e >>= next).Meets files c := by
  obtain ⟨result, hresult⟩ := he
  exact meets_bind_of_offline hresult fun value _ => h value

end Exchange

/-! ### Runs -/

/-- Requests and their answers, in turn: whether an answer is one may depend on what has left
before. -/
inductive Answered (answers : List ω → ω → Response → Prop) :
    (before sent : List ω) → List Response → Prop
  /-- Nothing has been sent. -/
  | nil {before : List ω} : Answered answers before [] []
  /-- One more request with its answer in front. -/
  | cons {before sent : List ω} {out : ω} {response : Response} {responses : List Response} :
      answers before out response → Answered answers (before ++ [out]) sent responses →
      Answered answers before (out :: sent) (response :: responses)

/-- The answers that a transport gives. -/
def Transport.Answers (transport : Transport ω) (before : List ω) (out : ω) (response : Response) :
    Prop :=
  transport.answer before out = .ok response

/-- What a contract means for a run that has come to a result and sent some requests. -/
structure Contract.Holds (c : Contract α) (transport : Transport ω) (before : List ω)
    (result : Option (Except ε α)) (sent : List ω) : Prop where
  /-- Each request was allowed after as many answers as there are requests before it. -/
  allowed : ∀ (i : Nat) (out : ω), sent[i]? = some out → ∃ responses request,
    responses.length = i ∧ c.allows responses request ∧ transport.outgoing request = .ok out
  /-- A value stands for answers to all requests. -/
  value : ∀ value, result = some (.ok value) →
    ∃ responses, Answered transport.Answers before sent responses ∧ c.gives responses value
  /-- There is a result unless the contract allows that there is none. -/
  endless : result = none → c.endless

namespace Contract.Holds

variable {c : Contract α} {transport : Transport ω} {before : List ω}

theorem fail (error : ε) :
    c.Holds transport before (some (.error error) : Option (Except ε α)) [] where
  allowed i out hout := by simp at hout
  value value hvalue := by cases hvalue
  endless hnone := by cases hnone

theorem done {value : α} (h : c.gives [] value) :
    c.Holds transport before (some (.ok value) : Option (Except ε α)) [] where
  allowed i out hout := by simp at hout
  value value' hvalue := by
    obtain rfl := Except.ok.inj (Option.some.inj hvalue)
    exact ⟨[], .nil, h⟩
  endless hnone := by cases hnone

/-- A request whose answer is an error, as the last one. -/
theorem refused {request : Request} {out : ω} (hallows : c.allows [] request)
    (hout : transport.outgoing request = .ok out) (error : ε) :
    c.Holds transport before (some (.error error) : Option (Except ε α)) [out] where
  allowed i out' hout' := by
    cases i with
    | zero =>
      obtain rfl := Option.some.inj hout'
      exact ⟨[], request, rfl, hallows, hout⟩
    | succ i => simp at hout'
  value value hvalue := by cases hvalue
  endless hnone := by cases hnone

/-- A request that is answered, in front of others. -/
theorem answered {request : Request} {out : ω} {response : Response} {result : Option (Except ε α)}
    {sent : List ω} (hallows : c.allows [] request) (hout : transport.outgoing request = .ok out)
    (hanswer : transport.answer before out = .ok response)
    (h : (c.after response).Holds transport (before ++ [out]) result sent) :
    c.Holds transport before result (out :: sent) where
  allowed i out' hout' := by
    cases i with
    | zero =>
      obtain rfl := Option.some.inj hout'
      exact ⟨[], request, rfl, hallows, hout⟩
    | succ i =>
      obtain ⟨responses, request', rfl, hallows', hrequest⟩ := h.allowed i out' hout'
      exact ⟨response :: responses, request', rfl, hallows', hrequest⟩
  value value hvalue := by
    obtain ⟨responses, hresponses, hgives⟩ := h.value value hvalue
    exact ⟨response :: responses, .cons hanswer hresponses, hgives⟩
  endless hnone := h.endless hnone

end Contract.Holds

/-- **Every run keeps to what the exchange keeps to.** -/
theorem Exchange.Meets.run {files : Files} {e : Exchange ε α} {c : Contract α}
    (h : e.Meets files c) (transport : Transport ω) (before : List ω) :
    ∃ sent, (e.run files transport before).2 = before ++ sent ∧
      c.Holds transport before (e.run files transport before).1 sent := by
  induction e generalizing c before with
  | done value => exact ⟨[], (List.append_nil before).symm, .done h⟩
  | fail error => exact ⟨[], (List.append_nil before).symm, .fail error⟩
  | endless =>
    exact ⟨[], (List.append_nil before).symm, fun _ _ hout => by simp at hout,
      fun _ hvalue => (by cases hvalue), fun _ => h⟩
  | readFile path next ih => exact ih _ h before
  | send request next ih =>
    obtain ⟨hallows, hfails, hnext⟩ := h
    cases hout : transport.outgoing request with
    | error error =>
      obtain ⟨error', herror⟩ := hfails error
      rw [run_send_of_not_outgoing _ _ hout, herror, run_fail]
      exact ⟨[], (List.append_nil before).symm, .fail error'⟩
    | ok out =>
      rw [run_send_of_outgoing _ _ hout]
      cases hanswer : transport.answer before out with
      | error error =>
        obtain ⟨error', herror⟩ := hfails error
        rw [herror, run_fail]
        exact ⟨[out], rfl, .refused hallows hout error'⟩
      | ok response =>
        obtain ⟨sent, hsent, hholds⟩ := ih _ (hnext response) (before ++ [out])
        refine ⟨out :: sent, ?_, .answered hallows hout hanswer hholds⟩
        rw [hsent, List.append_assoc, List.singleton_append]

end BrokerAdmin
