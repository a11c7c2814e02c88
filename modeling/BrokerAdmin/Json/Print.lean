import BrokerAdmin.Binary64.Shortest
import BrokerAdmin.IntegerText
import BrokerAdmin.Json.Value

/-!
# Writing JSON

A value is written compactly, for requests, or laid out over lines with two spaces of indentation,
for readers. In strings the quote, the backslash and the control characters are escaped and all else
stands as it is. A number that is not finite is written as `null`.

## Main definitions

* `Json.Value.compact`: the text without blanks.
* `Json.Value.pretty`: the text with one item or member a line.
-/

namespace BrokerAdmin.Json

/-- A hexadecimal digit in lower case. -/
def lowerHex (n : Nat) : Char := if n < 10 then Char.ofNat (48 + n) else Char.ofNat (87 + n)

/-- One character of a string. -/
def escapeChar (c : Char) : List Char :=
  if c = '"' then ['\\', '"']
  else if c = '\\' then ['\\', '\\']
  else if c = '\x08' then ['\\', 'b']
  else if c = '\x0c' then ['\\', 'f']
  else if c = '\n' then ['\\', 'n']
  else if c = '\r' then ['\\', 'r']
  else if c = '\t' then ['\\', 't']
  else if c.toNat < 0x20 then
    ['\\', 'u', '0', '0', lowerHex (c.toNat / 16), lowerHex (c.toNat % 16)]
  else [c]

/-- A string with its quotes. -/
def quote (s : String) : List Char := '"' :: s.toList.flatMap escapeChar ++ ['"']

/-- A floating-point number; one that is not finite has no numeral. -/
def printNumber (x : Binary64) : List Char :=
  match x.toText with
  | some s => s.toList
  | none => ['n', 'u', 'l', 'l']

namespace Value

mutual

/-- The characters of a value without blanks. -/
def compactChars : Value → List Char
  | .null => ['n', 'u', 'l', 'l']
  | .bool true => ['t', 'r', 'u', 'e']
  | .bool false => ['f', 'a', 'l', 's', 'e']
  | .int n => intChars n
  | .float x => printNumber x
  | .string s => quote s
  | .array items => '[' :: compactItems items
  | .object members => '\x7b' :: compactMembers members

/-- The items of an array and the closing bracket. -/
def compactItems : List Value → List Char
  | [] => [']']
  | [item] => compactChars item ++ [']']
  | item :: rest => compactChars item ++ ',' :: compactItems rest

/-- The members of an object and the closing brace. -/
def compactMembers : List (String × Value) → List Char
  | [] => ['\x7d']
  | [(key, value)] => quote key ++ ':' :: compactChars value ++ ['\x7d']
  | (key, value) :: rest => quote key ++ ':' :: compactChars value ++ ',' :: compactMembers rest

end

/-- A new line that starts at a depth of nesting. -/
def newLine (depth : Nat) : List Char := '\n' :: List.replicate (2 * depth) ' '

mutual

/-- The characters of a value laid out over lines; `depth` is its depth of nesting. -/
def prettyChars (depth : Nat) : Value → List Char
  | .array [] => ['[', ']']
  | .array items => '[' :: prettyItems (depth + 1) items ++ newLine depth ++ [']']
  | .object [] => ['\x7b', '\x7d']
  | .object members => '\x7b' :: prettyMembers (depth + 1) members ++ newLine depth ++ ['\x7d']
  | .null => ['n', 'u', 'l', 'l']
  | .bool true => ['t', 'r', 'u', 'e']
  | .bool false => ['f', 'a', 'l', 's', 'e']
  | .int n => intChars n
  | .float x => printNumber x
  | .string s => quote s

/-- The items of an array, each on its line. -/
def prettyItems (depth : Nat) : List Value → List Char
  | [] => []
  | [item] => newLine depth ++ prettyChars depth item
  | item :: rest => newLine depth ++ prettyChars depth item ++ ',' :: prettyItems depth rest

/-- The members of an object, each on its line. -/
def prettyMembers (depth : Nat) : List (String × Value) → List Char
  | [] => []
  | [(key, value)] => newLine depth ++ quote key ++ ':' :: ' ' :: prettyChars depth value
  | (key, value) :: rest =>
    newLine depth ++ quote key ++ ':' :: ' ' :: prettyChars depth value ++
      ',' :: prettyMembers depth rest

end

/-- The text of a value without blanks. -/
def compact (v : Value) : String := String.ofList v.compactChars

/-- The text of a value with one item or member a line. -/
def pretty (v : Value) : String := String.ofList (v.prettyChars 0)

end Value

end BrokerAdmin.Json
