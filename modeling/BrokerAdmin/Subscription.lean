import BrokerAdmin.Exchange

/-!
# Subscriptions

A subscription of a topic remembers, with its cursor, how far its consumers have come. It can be
inspected and moved without taking part in it.

## Peeking

Messages in front of the cursor are asked for one position after the other, from 1 on, until there
are enough. The answer for a position holds one message or a batch, and a batch is never cut, so there
may be more messages in the end than were asked for. Whatever goes wrong at one position ends the
whole peek.

Nothing keeps a server from answering a position with a batch of no messages. A peek that meets only
such answers never has enough; it goes on for as long as there are positions, which are numbers of 64
bits.

## Main definitions

* `Subscription`: a subscription, with the requests that concern it.
* `Subscription.peek`: messages in front of the cursor.
* `TopicName.subscriptions`, `TopicName.expireAll`, `TopicName.messageAt`: what concerns a whole topic.
-/

namespace BrokerAdmin

/-- A subscription of a topic. -/
structure Subscription where
  /-- The topic. -/
  topic : TopicName
  /-- Its name. -/
  name : String
  deriving DecidableEq, Repr

namespace Subscription

/-- Where a subscription is. -/
def endpoint (version : ApiVersion) (s : Subscription) : Endpoint :=
  (Endpoint.ofTopic version s.topic).add ["subscription", s.name]

/-- Make a subscription whose cursor stands at a message. -/
def create (version : ApiVersion) (s : Subscription) (position : MessageId) :
    Exchange Error Unit :=
  .order .put (s.endpoint version) (.ofValue MessageId.codec position)

/-- Remove a subscription. Unless it is forced, this is refused while there are consumers. -/
def delete (version : ApiVersion) (s : Subscription) (force : Bool) : Exchange Error Unit :=
  .order .delete ((s.endpoint version).ask "force" (toString force))

/-- Move the cursor to a message, or to the nearest place before it. -/
def resetToMessage (version : ApiVersion) (s : Subscription) (position : MessageId) :
    Exchange Error Unit :=
  .order .post ((s.endpoint version).add ["resetcursor"]) (.ofValue MessageId.codec position)

/-- Move the cursor to a time, in milliseconds since 1970. -/
def resetToTime (version : ApiVersion) (s : Subscription) (time : Int) : Exchange Error Unit :=
  .order .post ((s.endpoint version).add ["resetcursor", intText time])

/-- Skip everything that is in front of the cursor. -/
def clearBacklog (version : ApiVersion) (s : Subscription) : Exchange Error Unit :=
  .order .post ((s.endpoint version).add ["skip_all"])

/-- Skip messages. -/
def skip (version : ApiVersion) (s : Subscription) (count : Int) : Exchange Error Unit :=
  .order .post ((s.endpoint version).add ["skip", intText count])

/-- Let messages expire that are older than some seconds. -/
def expire (version : ApiVersion) (s : Subscription) (seconds : Int) : Exchange Error Unit :=
  .order .post ((s.endpoint version).add ["expireMessages", intText seconds])

/-! ### Peeking -/

/-- The messages at a position in front of the cursor. -/
def peekAt (version : ApiVersion) (s : Subscription) (position : Nat) :
    Exchange Error (List Message) :=
  .messages s.topic ((s.endpoint version).add ["position", intText position])

/-- The messages from a position on, until there are enough. So many positions are left. -/
def peekFrom (version : ApiVersion) (s : Subscription) :
    (left position missing : Nat) → Exchange Error (List Message)
  | _, _, 0 => .done []
  | 0, _, _ + 1 => .endless
  | left + 1, position, missing + 1 => do
    let found ← s.peekAt version position
    let others ← s.peekFrom version left (position + 1) (missing + 1 - found.length)
    return found ++ others

/-- The greatest position. -/
def lastPosition : Nat := UInt64.size - 1

/-- At least `count` messages in front of the cursor. -/
def peek (version : ApiVersion) (s : Subscription) (count : Nat) : Exchange Error (List Message) :=
  s.peekFrom version lastPosition 1 count

end Subscription

namespace TopicName

/-- The names of the subscriptions of a topic. -/
def subscriptions (version : ApiVersion) (topic : TopicName) : Exchange Error (List String) :=
  .get (.list .string) ((Endpoint.ofTopic version topic).add ["subscriptions"])

/-- Let messages of all subscriptions expire that are older than some seconds. -/
def expireAll (version : ApiVersion) (topic : TopicName) (seconds : Int) : Exchange Error Unit :=
  .order .post
    ((Endpoint.ofTopic version topic).add ["all_subscription", "expireMessages", intText seconds])

/-- The message at an address, the first one if there is a batch, and none if the batch is empty. -/
def messageAt (version : ApiVersion) (topic : TopicName) (ledger entry : Int) :
    Exchange Error (Option Message) := do
  let found ← Exchange.messages topic
    ((Endpoint.ofTopic version topic).add ["ledger", intText ledger, "entry", intText entry])
  return found.head?

end TopicName

end BrokerAdmin
