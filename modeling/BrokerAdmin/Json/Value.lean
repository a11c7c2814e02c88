import BrokerAdmin.Binary64.Basic
import BrokerAdmin.Dict

/-!
# JSON values

Free-form settings, metrics and load-report leftovers are kept as JSON values, and records are turned
into values to be written. A number is an integer of 64 bits, with or without sign, or a
floating-point number.

The members of an object stand in the order in which they are written, which means nothing to a
reader. A record gives its members in the order of their declaration. A free-form value has no order
of its own to keep, so its members are sorted by key, each key once.

## Main definitions

* `Json.Value`: a JSON value.
* `Json.Value.ofMembers`: an object from members in any order, where the last of a key counts.
* `Json.Value.sorted`: the free-form value that says the same.
-/

namespace BrokerAdmin.Json

/-- A JSON value. -/
inductive Value where
  /-- The value `null`. -/
  | null
  /-- A truth value. -/
  | bool (b : Bool)
  /-- An integer of 64 bits. -/
  | int (n : Int)
  /-- A floating-point number. -/
  | float (x : Binary64)
  /-- A text. -/
  | string (s : String)
  /-- Values in order. -/
  | array (items : List Value)
  /-- Named values. -/
  | object (members : List (String × Value))
  deriving Repr

namespace Value

instance : Inhabited Value := ⟨.null⟩

/-- The free-form object with these members; of several with one key the last counts. -/
def ofMembers (members : List (String × Value)) : Value := .object (Dict.ofList members).toList

mutual

/-- The value with the members of all objects sorted by key. -/
def sorted : Value → Value
  | .null => .null
  | .bool b => .bool b
  | .int n => .int n
  | .float x => .float x
  | .string s => .string s
  | .array items => .array (sortedItems items)
  | .object members => .ofMembers (sortedMembers members)

/-- The items of an array with the members of all objects in them sorted. -/
def sortedItems : List Value → List Value
  | [] => []
  | item :: rest => item.sorted :: sortedItems rest

/-- The members of an object with those of all objects in their values sorted. -/
def sortedMembers : List (String × Value) → List (String × Value)
  | [] => []
  | (key, value) :: rest => (key, value.sorted) :: sortedMembers rest

end

/-- The value of a key of an object. -/
def get? : Value → String → Option Value
  | .object members, key => (members.find? (·.1 = key)).map (·.2)
  | _, _ => none

end Value

end BrokerAdmin.Json
