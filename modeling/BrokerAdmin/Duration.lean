import BrokerAdmin.Blank
import BrokerAdmin.IntegerText
import BrokerAdmin.Text

/-!
# Durations

A duration is written as a whole number with a unit: milliseconds, seconds, minutes or hours. Without
a unit the number counts seconds. The number and the duration in seconds must fit in 64 bits; nothing
wraps.

## Main definitions

* `Duration`: whole seconds and a rest in nanoseconds.
* `Duration.Unit`: the units, with their text.
* `Duration.parse`: the duration that a text denotes, or why it denotes none.
-/

namespace BrokerAdmin

/-- A span of time. -/
structure Duration where
  /-- The whole seconds. -/
  seconds : Nat
  /-- The rest, below a second. -/
  nanoseconds : Nat
  deriving DecidableEq, Repr

namespace Duration

/-- What the number of a duration counts. -/
inductive Unit where
  /-- Thousandths of a second. -/
  | milliseconds
  /-- Hours. -/
  | hours
  /-- Minutes. -/
  | minutes
  /-- Seconds. -/
  | seconds
  /-- Seconds, because no unit is written. -/
  | unwritten
  deriving DecidableEq, Repr

/-- Why a text is no duration. -/
inductive Fault where
  /-- There is nothing but blanks. -/
  | empty
  /-- What stands before the unit is no number. -/
  | number (unit : Unit) (text : String) (fault : IntegerFault)
  /-- The text denotes more seconds than fit. -/
  | outOfRange (text : String)
  deriving DecidableEq, Repr

/-- What the number of a unit is called in messages. -/
def Unit.label : Unit → String
  | .milliseconds => "milliseconds"
  | .hours => "hours"
  | .minutes => "minutes"
  | .seconds => "seconds"
  | .unwritten => "duration"

/-- The wording of a fault. -/
def Fault.message : Fault → String
  | .empty => "Empty duration string"
  | .number unit text fault =>
    "Invalid " ++ unit.label ++ " value: " ++ text ++ ": " ++ fault.message
  | .outOfRange text => "Duration out of range: " ++ text

/-- The unit at the end of a text and what stands before it. The unit of two letters is looked for
first, since each of its letters is a unit of its own. -/
def splitUnit (cs : List Char) : Unit × List Char :=
  match dropBack ['m', 's'] cs with
  | some number => (.milliseconds, number)
  | none =>
    match dropBack ['h'] cs with
    | some number => (.hours, number)
    | none =>
      match dropBack ['m'] cs with
      | some number => (.minutes, number)
      | none =>
        match dropBack ['s'] cs with
        | some number => (.seconds, number)
        | none => (.unwritten, cs)

/-- The greatest number of 64 bits. -/
def maxSeconds : Nat := UInt64.size - 1

/-- The duration of `n` units, unless it has more seconds than fit. -/
def ofUnits (unit : Unit) (n : Nat) : Option Duration :=
  match unit with
  | .milliseconds => some ⟨n / 1000, n % 1000 * 1000000⟩
  | .hours => if n * 3600 ≤ maxSeconds then some ⟨n * 3600, 0⟩ else none
  | .minutes => if n * 60 ≤ maxSeconds then some ⟨n * 60, 0⟩ else none
  | .seconds | .unwritten => some ⟨n, 0⟩

/-- The duration that a text denotes. -/
def parse (s : String) : Except Fault Duration :=
  let cs := trimBlanks s.toList
  if cs.isEmpty then .error .empty
  else
    let (unit, number) := splitUnit cs
    match (IntegerRange.unsigned 64).readChars number with
    | .error fault => .error (.number unit (String.ofList number) fault)
    | .ok n =>
      match ofUnits unit n.toNat with
      | some d => .ok d
      | none => .error (.outOfRange (String.ofList cs))

end Duration

end BrokerAdmin
