import BrokerAdmin.Error
import BrokerAdmin.IntegerText
import BrokerAdmin.Text

/-!
# Topic names

A topic is named by its domain, tenant, namespace and local name. The short forms leave out the
domain, or the tenant and the namespace as well, which are then those for everyone. The partitions of
a topic are topics of their own, told apart by a number at the end of the local name.

## Main definitions

* `TopicName`, `TopicName.toText`: a name and its full text.
* `TopicName.parse`: the name that a text denotes, or why it denotes none.
* `TopicName.pathSegments`: the segments that address a topic.
* `TopicName.partition`, `TopicName.partitionIndex`: the partitions of a topic.
-/

namespace BrokerAdmin

/-- Whether the messages of a topic are stored. -/
inductive TopicDomain where
  /-- Messages are stored. -/
  | persistent
  /-- Messages are only passed on. -/
  | nonPersistent
  deriving DecidableEq, Repr

/-- The text of a domain. -/
def TopicDomain.toText : TopicDomain → String
  | .persistent => "persistent"
  | .nonPersistent => "non-persistent"

/-- The name of a topic. -/
structure TopicName where
  /-- Whether its messages are stored. -/
  domain : TopicDomain
  /-- The tenant that owns its namespace. -/
  tenant : String
  /-- The namespace that it lies in. -/
  «namespace» : String
  /-- Its name in the namespace. -/
  localName : String
  deriving DecidableEq, Repr

namespace TopicName

/-- The full text of a name. -/
def toText (topic : TopicName) : String :=
  topic.domain.toText ++ "://" ++ topic.tenant ++ "/" ++ topic.namespace ++ "/" ++ topic.localName

/-- Why a text is no topic name. -/
inductive Fault where
  /-- It has a scheme that is no domain. -/
  | unknownDomain
  /-- It has neither one part nor three. -/
  | partCount
  /-- A part is empty. -/
  | emptyPart
  deriving DecidableEq, Repr

/-- The wording of a fault. -/
def Fault.message : Fault → String
  | .unknownDomain => "unknown domain"
  | .partCount => "expected <topic> or <tenant>/<namespace>/<topic>"
  | .emptyPart => "tenant, namespace and topic must not be empty"

/-- The domain at the start of a text and what follows it. A text without a scheme is persistent. -/
def splitDomain (cs : List Char) : Except Fault (TopicDomain × List Char) :=
  match dropFront "persistent://".toList cs with
  | some rest => .ok (.persistent, rest)
  | none =>
    match dropFront "non-persistent://".toList cs with
    | some rest => .ok (.nonPersistent, rest)
    | none =>
      if occursIn "://".toList cs then .error .unknownDomain else .ok (.persistent, cs)

/-- The name with these parts, none of which may be empty. -/
def ofParts (domain : TopicDomain) (tenant space topic : List Char) : Except Fault TopicName :=
  if tenant.isEmpty || space.isEmpty || topic.isEmpty then .error .emptyPart
  else .ok ⟨domain, String.ofList tenant, String.ofList space, String.ofList topic⟩

/-- The name that a text denotes. -/
def parse (s : String) : Except Fault TopicName := do
  let (domain, rest) ← splitDomain s.toList
  match splitFields '/' rest with
  | [topic] => ofParts domain "public".toList "default".toList topic
  | [tenant, space, topic] => ofParts domain tenant space topic
  | _ => .error .partCount

/-- The name that a text denotes, with the error that names the text. -/
def ofText (s : String) : Except ValueError TopicName :=
  match parse s with
  | .ok topic => .ok topic
  | .error fault => .error (.invalidTopicName s fault.message)

/-- The segments that address a topic. -/
def pathSegments (topic : TopicName) : List String :=
  [topic.domain.toText, topic.tenant, topic.namespace, topic.localName]

/-- What stands between the local name of a topic and the number of a partition. -/
def partitionMark : List Char := "-partition-".toList

/-- The name of a partition of a topic. -/
def partition (topic : TopicName) (index : Nat) : TopicName :=
  { topic with
    localName := String.ofList (topic.localName.toList ++ partitionMark ++ Nat.toDigits 10 index) }

/-- The number of the partition that the name stands for, if it stands for one. -/
def partitionIndex (topic : TopicName) : Option Nat :=
  match splitLast partitionMark topic.localName.toList with
  | some (_, digits) =>
    match (IntegerRange.unsigned 32).readChars digits with
    | .ok n => some n.toNat
    | .error _ => none
  | none => none

end TopicName

end BrokerAdmin
