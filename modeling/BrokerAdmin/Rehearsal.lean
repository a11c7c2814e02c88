import BrokerAdmin.Http

/-!
# Prepared answers

Calls can be tried without a server: answers are prepared for the requests that are expected. Several
answers to one request are given one after the other, and the last one is given from then on.

There are two places to rehearse at. At the endpoint, requests are looked up as they are meant, and
nothing is encoded or sent. On the wire, requests are looked up by what a server would see, and
answers pass through what a connection does to them.

## Main definitions

* `Rehearsal.Answer`, `Rehearsal.Script`: a prepared answer, and answers for the expected requests.
* `Rehearsal.atEndpoint`: exchanges with a script, without any connection.
* `Rehearsal.server`: a server that follows a script.
-/

namespace BrokerAdmin.Rehearsal

/-- A prepared answer. -/
structure Answer where
  /-- The status. -/
  status : Status := 200
  /-- The headers, names in any case. -/
  headers : List (String × Bytes) := []
  /-- The body. -/
  body : Bytes := []
  /-- The announced length of the body, if it is not its own. -/
  announced : Option Nat := none
  deriving DecidableEq

/-- The answers for each expected request, which is given as its method and what it asks for. -/
structure Script where
  /-- The answers. -/
  answers : List (String × List Answer)
  deriving DecidableEq

/-- How a request is looked up. -/
def key (method : Method) (place : String) : String := method.toText ++ " " ++ place

/-- The answer to a request that has been sent some times before. -/
def Script.next (script : Script) (key : String) (before : Nat) : Option Answer := do
  let (_, answers) ← script.answers.find? (·.1 = key)
  answers[before]? <|> answers.getLast?

/-! ### At the endpoint -/

/-- How a request is looked up at the endpoint. -/
def endpointKey (request : Request) : String := key request.method request.endpoint.toText

/-- What is answered where nothing is prepared: there is nothing to get, and all else succeeds. -/
def unprepared (request : Request) : Except Error Response :=
  if request.method = .get then
    .error (.http 404 ("no canned response for " ++ request.endpoint.toText))
  else .ok ⟨200, [], []⟩

/-- Exchanges with a script, without any connection. -/
def atEndpoint (script : Script) : Transport Request where
  outgoing := .ok
  answer log request :=
    let key := endpointKey request
    match script.next key (log.countP fun r => endpointKey r = key) with
    | some answer =>
      (Http.Reply.complete ⟨answer.status, .ofList answer.headers, answer.body⟩).result
    | none => unprepared request

/-! ### On the wire -/

/-- Where a script is followed on the wire: on this machine, at one port. -/
def place : String := "127.0.0.1:8080"

/-- Whether a request reaches the place. -/
def reaches (out : Http.Outgoing) : Bool :=
  out.url.scheme = "http" && match out.url.authority with
    | some a =>
      (if a.host = "localhost" then "127.0.0.1" else a.host) ++ ":" ++ toString (a.port.getD 80) = place
    | none => false

/-- How a request is looked up on the wire. -/
def wireKey (out : Http.Outgoing) : String := key out.method out.target

/-- What arrives of an answer. One that only says that another will follow is no answer. -/
def deliver (answer : Answer) : Http.Reply :=
  if Http.isProvisional answer.status ||
      answer.headers.any fun header => !header.2.all Http.isHeaderByte then .silence
  else
    let headers := Headers.ofList (answer.headers.map fun (name, v) => (name, Http.arriving v))
    if Http.isBodiless answer.status then .complete ⟨answer.status, headers, []⟩
    else
      match answer.announced with
      | none => .complete ⟨answer.status, headers, answer.body⟩
      | some n =>
        match answer.body.splitExactly n with
        | some (body, _) => .complete ⟨answer.status, headers, body⟩
        | none => .brokenOff answer.status headers

/-- A server that follows a script. Requests that go elsewhere get no answer. -/
def server (script : Script) : Http.Server := fun log out =>
  if reaches out then
    let key := wireKey out
    match script.next key (log.countP fun o => reaches o && wireKey o = key) with
    | some answer => deliver answer
    | none => .complete ⟨if out.method = .get then 404 else 204, [], []⟩
  else .silence

end BrokerAdmin.Rehearsal
