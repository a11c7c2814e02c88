import BrokerAdmin.Exchange

/-!
# What has left stays

An exchange that is put together from two is carried out one after the other: the second one starts
with what has left during the first. Requests are only ever added behind those that have left before.

## Main definitions

* `Transport.deliver`: what comes of handing over one request.

## Main results

* `Exchange.run_bind`: carrying out an exchange and then another.
* `Exchange.run_order`, `Exchange.run_messages`: carrying out one request.
* `Exchange.prefix_run`: what has left before comes first.
-/

namespace BrokerAdmin

/-- What comes of handing over one request whose answer does not matter once it succeeds. It leaves
once, unless the transport refuses it, and then nothing leaves. -/
def Transport.deliver {ω : Type} (transport : Transport ω) (request : Request) (log : List ω) :
    Option (Except Error Unit) × List ω :=
  match transport.outgoing request with
  | .error error => (some (.error error), log)
  | .ok out => (some ((transport.answer log out).map fun _ => ()), log ++ [out])

namespace Exchange

variable {ε α β ω : Type} (files : Files) (transport : Transport ω)

@[simp] theorem run_done (value : α) (log : List ω) :
    (done value : Exchange ε α).run files transport log = (some (.ok value), log) := rfl

@[simp] theorem run_fail (error : ε) (log : List ω) :
    (fail error : Exchange ε α).run files transport log = (some (.error error), log) := rfl

@[simp] theorem run_endless (log : List ω) :
    (endless : Exchange ε α).run files transport log = (none, log) := rfl

/-- A request that leaves is answered, and stands behind what has left before. -/
theorem run_send_of_outgoing {request : Request} {out : ω}
    (h : transport.outgoing request = .ok out) (next : Except Error Response → Exchange ε α)
    (log : List ω) :
    (send request next).run files transport log =
      (next (transport.answer log out)).run files transport (log ++ [out]) := by
  rw [run, h]

/-- A request that cannot leave is answered with the reason. -/
theorem run_send_of_not_outgoing {request : Request} {error : Error}
    (h : transport.outgoing request = .error error) (next : Except Error Response → Exchange ε α)
    (log : List ω) :
    (send request next).run files transport log =
      (next (.error error)).run files transport log := by
  rw [run, h]

theorem run_ofExcept (result : Except ε α) (log : List ω) :
    (ofExcept result).run files transport log = (some result, log) := by
  cases result <;> rfl

/-- **One exchange after the other**: the second goes on where the first has come to. -/
theorem run_bind (first : Exchange ε α) (next : α → Exchange ε β) (log : List ω) :
    (first >>= next).run files transport log =
      match first.run files transport log with
      | (some (.ok value), log') => (next value).run files transport log'
      | (some (.error error), log') => (some (.error error), log')
      | (none, log') => (none, log') := by
  induction first generalizing log with
  | done _ => rfl
  | fail _ => rfl
  | endless => rfl
  | readFile path following ih => exact ih (files path) log
  | send request following ih =>
    rw [bind_send]
    cases hout : transport.outgoing request with
    | error error =>
      rw [run_send_of_not_outgoing _ _ hout, run_send_of_not_outgoing _ _ hout]
      exact ih _ log
    | ok out =>
      rw [run_send_of_outgoing _ _ hout, run_send_of_outgoing _ _ hout]
      exact ih _ _

/-- **What has left before comes first**: an exchange adds to it and takes nothing away. -/
theorem prefix_run (exchange : Exchange ε α) (log : List ω) :
    log <+: (exchange.run files transport log).2 := by
  induction exchange generalizing log with
  | done _ => exact List.prefix_rfl
  | fail _ => exact List.prefix_rfl
  | endless => exact List.prefix_rfl
  | readFile path following ih => exact ih (files path) log
  | send request following ih =>
    cases hout : transport.outgoing request with
    | error error =>
      rw [run_send_of_not_outgoing _ _ hout]
      exact ih _ log
    | ok out =>
      rw [run_send_of_outgoing _ _ hout]
      exact (List.prefix_append log [out]).trans (ih _ _)

/-- An order is one request. -/
theorem run_order (method : Method) (endpoint : Endpoint) (content : Content) (log : List ω) :
    (order method endpoint content).run files transport log =
      transport.deliver { method, endpoint, content } log := by
  rw [order, ask, bind_send, Transport.deliver]
  cases hout : transport.outgoing { method, endpoint, content } with
  | error error =>
    rw [run_send_of_not_outgoing _ _ hout]
    rfl
  | ok out =>
    rw [run_send_of_outgoing _ _ hout]
    dsimp only
    cases transport.answer log out <;> rfl

/-- Messages are asked for with one request, and what comes of it is what its answer carries. -/
theorem run_messages {topic : TopicName} {endpoint : Endpoint} {out : ω}
    (h : transport.outgoing { method := .get, endpoint, withHeaders := true } = .ok out)
    (log : List ω) :
    (messages topic endpoint).run files transport log =
      (some (transport.answer log out >>= fun response => response.messages topic.toText),
        log ++ [out]) := by
  rw [messages, ask, bind_send, run_send_of_outgoing _ _ h]
  cases transport.answer log out with
  | error error => rfl
  | ok response => exact run_ofExcept files transport _ _

end Exchange

end BrokerAdmin
