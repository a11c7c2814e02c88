import BrokerAdmin.Endpoint
import BrokerAdmin.Files
import BrokerAdmin.Form
import BrokerAdmin.Response

/-!
# Exchanges with the outside

What a call does is a matter of turns: it may read a file or send a request, and how it goes on
depends on what comes back. An exchange is this tree of turns. It holds no file and no connection, so
the same exchange can be carried out over a network, against prepared answers, or in a proof against
any answers at all.

## Why a tree

* Which requests a call sends, and in which order, is part of what it is, and not a side effect of
  running it.
* A call that fails before its first request is an exchange without any turn that sends.
* A call that may go on for ever is cut off where nobody can follow it any more; `endless` marks this
  place, so that no result is made up.

## Main definitions

* `Request`: a request, with its `Method` and `Content`.
* `Exchange ε α`: an exchange that gives a value of `α` or fails with an error of `ε`.
* `Transport`, `Exchange.run`: how requests are answered, and what comes of an exchange.
-/

namespace BrokerAdmin

/-- What a request is to do with what it names. -/
inductive Method where
  /-- Show it. -/
  | get
  /-- Change it. -/
  | post
  /-- Make it, or put another in its place. -/
  | put
  /-- Remove it. -/
  | delete
  deriving DecidableEq, Repr

/-- The word for a method. -/
def Method.toText : Method → String
  | .get => "GET"
  | .post => "POST"
  | .put => "PUT"
  | .delete => "DELETE"

/-- What a request carries. -/
inductive Content where
  /-- Nothing. -/
  | nothing
  /-- A JSON value. -/
  | json (value : Json.Value)
  /-- A form. -/
  | form (form : Form)

/-- A value as JSON. It is turned into a free-form value before it is sent. -/
def Content.ofValue {α : Type} (codec : Json.Codec α) (x : α) : Content :=
  .json (codec.write x).sorted

/-- A request to the server. -/
structure Request where
  /-- What is to be done. -/
  method : Method
  /-- Where it goes. -/
  endpoint : Endpoint
  /-- What it carries. -/
  content : Content := .nothing
  /-- Whether the headers of the answer matter. -/
  withHeaders : Bool := false

/-- A tree of turns with the outside. -/
inductive Exchange (ε α : Type) where
  /-- The exchange is over and gives a value. -/
  | done (value : α)
  /-- The exchange is over and has failed. -/
  | fail (error : ε)
  /-- The exchange goes on longer than anybody can follow. -/
  | endless
  /-- Read a file. -/
  | readFile (path : String) (next : Except FileError Bytes → Exchange ε α)
  /-- Send a request. -/
  | send (request : Request) (next : Except Error Response → Exchange ε α)

namespace Exchange

variable {ε ε' α β ω : Type}

/-- Go on with the value of an exchange. -/
def bind : Exchange ε α → (α → Exchange ε β) → Exchange ε β
  | .done value, f => f value
  | .fail error, _ => .fail error
  | .endless, _ => .endless
  | .readFile path next, f => .readFile path fun content => (next content).bind f
  | .send request next, f => .send request fun answer => (next answer).bind f

instance : Monad (Exchange ε) where
  pure := .done
  bind := bind

@[simp] theorem pure_eq_done (value : α) : (pure value : Exchange ε α) = .done value := rfl

@[simp] theorem bind_done (value : α) (f : α → Exchange ε β) :
    (Exchange.done value >>= f) = f value := rfl

@[simp] theorem bind_fail (error : ε) (f : α → Exchange ε β) :
    (Exchange.fail error >>= f) = .fail error := rfl

@[simp] theorem bind_endless (f : α → Exchange ε β) :
    ((Exchange.endless : Exchange ε α) >>= f) = .endless := rfl

@[simp] theorem bind_readFile (path : String) (next : Except FileError Bytes → Exchange ε α)
    (f : α → Exchange ε β) :
    (Exchange.readFile path next >>= f) = .readFile path fun content => next content >>= f := rfl

@[simp] theorem bind_send (request : Request) (next : Except Error Response → Exchange ε α)
    (f : α → Exchange ε β) :
    (Exchange.send request next >>= f) = .send request fun answer => next answer >>= f := rfl

/-- The exchange with its error said in another way. -/
def mapError (f : ε → ε') : Exchange ε α → Exchange ε' α
  | .done value => .done value
  | .fail error => .fail (f error)
  | .endless => .endless
  | .readFile path next => .readFile path fun content => (next content).mapError f
  | .send request next => .send request fun answer => (next answer).mapError f

/-- A result that is there already. -/
def ofExcept : Except ε α → Exchange ε α
  | .ok value => .done value
  | .error error => .fail error

/-- The content of a file. -/
def file (path : String) : Exchange Error Bytes :=
  .readFile path fun content => ofExcept (content.mapError Error.io)

/-- The answer to a request. -/
def ask (request : Request) : Exchange Error Response := .send request ofExcept

/-- A request whose answer does not matter once it succeeds. -/
def order (method : Method) (endpoint : Endpoint) (content : Content := .nothing) :
    Exchange Error Unit := do
  let _ ← ask { method, endpoint, content }
  return ()

/-- What is at an endpoint, as bytes. -/
def fetch (endpoint : Endpoint) : Exchange Error Bytes := do
  let response ← ask { method := .get, endpoint }
  return response.body

/-- What is at an endpoint, as a value read from JSON. -/
def get (codec : Json.Codec α) (endpoint : Endpoint) : Exchange Error α := do
  let body ← fetch endpoint
  ofExcept ((codec.ofBytes body).mapError Error.json)

/-- The messages that the answer at an endpoint carries. -/
def messages (topic : TopicName) (endpoint : Endpoint) : Exchange Error (List Message) := do
  let response ← ask { method := .get, endpoint, withHeaders := true }
  ofExcept (response.messages topic.toText)

end Exchange

/-! ### Carrying out an exchange -/

/-- How requests leave and what they are answered. Requests leave as values of `ω`. -/
structure Transport (ω : Type) where
  /-- The form in which a request leaves, or why it cannot leave. -/
  outgoing : Request → Except Error ω
  /-- The answer to a request, which may depend on what has left before. -/
  answer : List ω → ω → Except Error Response

/-- Without a connection no request leaves. -/
def Transport.unconnected : Transport Empty where
  outgoing _ := .error .request
  answer _ out := nomatch out

/-- What comes of an exchange, if it comes to an end, and all that has left, in order. The list that
is given holds what had left before. -/
def Exchange.run {ε α ω : Type} (files : Files) (transport : Transport ω) :
    Exchange ε α → List ω → Option (Except ε α) × List ω
  | .done value, log => (some (.ok value), log)
  | .fail error, log => (some (.error error), log)
  | .endless, log => (none, log)
  | .readFile path next, log => (next (files path)).run files transport log
  | .send request next, log =>
    match transport.outgoing request with
    | .error error => (next (.error error)).run files transport log
    | .ok out => (next (transport.answer log out)).run files transport (log ++ [out])

end BrokerAdmin
