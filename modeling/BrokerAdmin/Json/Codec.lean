import BrokerAdmin.Json.Document
import BrokerAdmin.Json.Value

/-!
# Reading and writing typed values

A codec holds the two directions between a type and JSON in one place: how a value is written, and
how it is read from a document. Codecs of lists, dictionaries and records are made from those of
their parts, so the name, the type and the default of a field are said once.

A record is written as an object with its members in the order of their declaration. It is read from
an object, where the order of the members does not matter and unknown ones are skipped or kept aside,
or from an array that gives the fields in the order of their declaration. A dictionary has no order of
its own and is written sorted by key.

Readers carry the number of arrays and objects that may still be entered. Skipped values may nest
deeper than that.

## Main definitions

* `Json.ReadFault`: why a text is no value of a type.
* `Json.Codec`: the two directions for a type, with `Codec.ofBytes` for a whole text.
* `Json.Field`, `Json.Schema`: the fields of a record, and the record as a whole.
-/

namespace BrokerAdmin.Json

/-- Why a text is no value of the type asked for. -/
inductive ReadFault where
  /-- The text ends too early. -/
  | cutOff
  /-- The text is no JSON, or nests too deeply. -/
  | malformed
  /-- A value has the wrong type or is out of range, or a field is missing or given twice. -/
  | mismatch
  deriving DecidableEq, Repr

/-- The fault of a reader who meets a flaw. -/
def Flaw.fault : Flaw → ReadFault
  | .cutOff => .cutOff
  | .malformed => .malformed

/-- Go on unless there is a flaw. -/
def requireNone : Option Flaw → Except ReadFault Unit
  | none => .ok ()
  | some flaw => .error flaw.fault

namespace Document

mutual

/-- Pass over a value that nobody asked for. -/
def skip : Document → Except ReadFault Unit
  | .array items flaw => do
    skipItems items
    requireNone flaw
  | .object members flaws => do
    skipMembers members
    requireNone (flaws.map Flaws.skipped)
  | .broken flaws => .error flaws.skipped.fault
  | _ => .ok ()

/-- Pass over the items of an array. -/
def skipItems : List Document → Except ReadFault Unit
  | [] => .ok ()
  | item :: rest => do
    skip item
    skipItems rest

/-- Pass over the members of an object. -/
def skipMembers : List (Option String × Document) → Except ReadFault Unit
  | [] => .ok ()
  | (_, value) :: rest => do
    skip value
    skipMembers rest

end

/-- The fault of a reader who finds this value in place of one of another type. A scalar is read to
its end before its type is refused. -/
def mismatch : Document → ReadFault
  | .number numeral => if numeral.read.isSome then .mismatch else .malformed
  | .string none => .malformed
  | .broken flaws => flaws.kept.fault
  | _ => .mismatch

/-- The key of a member, which must be a text. -/
def keyText : Option String → Except ReadFault String
  | some key => .ok key
  | none => .error .malformed

mutual

/-- The value that a document denotes, whatever its type; `room` more levels may be entered. -/
def toValue (room : Nat) : Document → Except ReadFault Value
  | .null => .ok .null
  | .bool b => .ok (.bool b)
  | .number numeral =>
    match numeral.read with
    | some (.int n) => .ok (.int n)
    | some (.float x) => .ok (.float x)
    | none => .error .malformed
  | .string (some s) => .ok (.string s)
  | .string none => .error .malformed
  | .array items flaw =>
    match room with
    | 0 => .error .malformed
    | room + 1 => do
      let items ← toValues room items
      requireNone flaw
      .ok (.array items)
  | .object members flaws =>
    match room with
    | 0 => .error .malformed
    | room + 1 => do
      let members ← toMembers room members
      requireNone (flaws.map Flaws.kept)
      .ok (.ofMembers members)
  | .broken flaws => .error flaws.kept.fault

/-- The values of the items of an array. -/
def toValues (room : Nat) : List Document → Except ReadFault (List Value)
  | [] => .ok []
  | item :: rest => do
    let item ← toValue room item
    let rest ← toValues room rest
    .ok (item :: rest)

/-- The members of an object, in the order of the text. -/
def toMembers (room : Nat) :
    List (Option String × Document) → Except ReadFault (List (String × Value))
  | [] => .ok []
  | (key, value) :: rest => do
    let key ← keyText key
    let value ← toValue room value
    let rest ← toMembers room rest
    .ok ((key, value) :: rest)

end

end Document

/-- The two directions between a type and JSON. -/
structure Codec (α : Type) where
  /-- Read a value from a document; the number is that of the levels that may still be entered. -/
  read : Nat → Document → Except ReadFault α
  /-- The JSON form of a value. -/
  write : α → Value

namespace Codec

variable {α : Type}

/-- The arrays and objects that may be nested in a text. -/
def maxDepth : Nat := 127

/-- Read a whole text. -/
def ofBytes (codec : Codec α) (bytes : Bytes) : Except ReadFault α := do
  let (document, trailing) := Document.ofBytes bytes
  let value ← codec.read maxDepth document
  requireNone trailing
  .ok value

/-- Read a whole text. -/
def ofString (codec : Codec α) (s : String) : Except ReadFault α := codec.ofBytes (Utf8.encode s)

/-- Any JSON value. -/
def value : Codec Value where
  read room d := d.toValue room
  write v := v

/-- Truth values. -/
def bool : Codec Bool where
  read _
    | .bool b => .ok b
    | d => .error d.mismatch
  write b := .bool b

/-- Texts. -/
def string : Codec String where
  read _
    | .string (some s) => .ok s
    | d => .error d.mismatch
  write s := .string s

/-- Integers of a range. -/
def int (range : IntegerRange) : Codec Int where
  read _
    | .number numeral =>
      match numeral.read with
      | some (.int n) => if range.holds n then .ok n else .error .mismatch
      | some (.float _) => .error .mismatch
      | none => .error .malformed
    | d => .error d.mismatch
  write n := .int n

/-- Natural numbers of 64 bits. -/
def nat : Codec Nat where
  read room d := ((int (.unsigned 64)).read room d).map Int.toNat
  write n := .int n

/-- Floating-point numbers, which may also be given as integers. -/
def float : Codec Binary64 where
  read _
    | .number numeral =>
      match numeral.read with
      | some (.int n) => .ok (.ofInt n)
      | some (.float x) => .ok x
      | none => .error .malformed
    | d => .error d.mismatch
  write x := .float x

/-- A value or `null`. -/
def option (codec : Codec α) : Codec (Option α) where
  read room
    | .null => .ok none
    | d => (codec.read room d).map some
  write
    | some x => codec.write x
    | none => .null

/-- Read documents in order. -/
def readAll (codec : Codec α) (room : Nat) : List Document → Except ReadFault (List α)
  | [] => .ok []
  | item :: rest => do
    let item ← codec.read room item
    let rest ← readAll codec room rest
    .ok (item :: rest)

/-- Arrays of values of one type. -/
def list (codec : Codec α) : Codec (List α) where
  read room
    | .array items flaw =>
      match room with
      | 0 => .error .malformed
      | room + 1 => do
        let items ← codec.readAll room items
        requireNone flaw
        .ok items
    | d => .error d.mismatch
  write items := .array (items.map codec.write)

/-- Read named documents in order. -/
def readNamed (codec : Codec α) (room : Nat) :
    List (Option String × Document) → Except ReadFault (List (String × α))
  | [] => .ok []
  | (key, item) :: rest => do
    let key ← Document.keyText key
    let item ← codec.read room item
    let rest ← readNamed codec room rest
    .ok ((key, item) :: rest)

/-- Objects with free keys and values of one type. -/
def dict (codec : Codec α) : Codec (Dict α) where
  read room
    | .object members flaws =>
      match room with
      | 0 => .error .malformed
      | room + 1 => do
        let members ← codec.readNamed room members
        requireNone (flaws.map Flaws.kept)
        .ok (.ofList members)
    | d => .error d.mismatch
  write d := .object (d.toList.map fun p => (p.1, codec.write p.2))

end Codec

/-! ### Records -/

/-- Whether a field may be missing. -/
inductive Presence where
  /-- It must be given. -/
  | required
  /-- It may be missing as a member of an object, but not as an item of an array. -/
  | requiredInArray
  /-- It may be missing. -/
  | optional
  deriving DecidableEq, Repr

/-- A field of a record type. -/
structure Field (T : Type) where
  /-- The key of the field. -/
  name : String
  /-- Whether it may be missing. -/
  presence : Presence
  /-- Read the field and say how it is set. -/
  read : Nat → Document → Except ReadFault (T → T)
  /-- The JSON form of the field, unless it is left out. -/
  write : T → Option Value

namespace Field

variable {T α : Type}

/-- A field that is always written. -/
def plain (name : String) (presence : Presence) (codec : Codec α) (get : T → α)
    (set : T → α → T) : Field T where
  name := name
  presence := presence
  read room d := (codec.read room d).map fun x t => set t x
  write t := some (codec.write (get t))

/-- A field that is left out when it has no value, and that reads `null` as no value. -/
def omittable (name : String) (presence : Presence) (codec : Codec α) (get : T → Option α)
    (set : T → Option α → T) : Field T where
  name := name
  presence := presence
  read room d := (codec.option.read room d).map fun x t => set t x
  write t := (get t).map codec.write

end Field

/-- Where the members of a record go that are no fields of it. -/
structure Leftovers (T : Type) where
  /-- The members kept aside. -/
  get : T → Dict Value
  /-- Put one more member aside. -/
  put : T → String → Value → T

/-- A record type. -/
structure Schema (T : Type) where
  /-- The record with every field that may be missing at its default. -/
  blank : T
  /-- The fields in the order of their declaration. -/
  fields : List (Field T)
  /-- Where unknown members go; without it they are skipped. -/
  leftovers : Option (Leftovers T)

namespace Schema

variable {T : Type}

/-- Read the members of an object into a record. The list holds the names of the fields that have
been given. -/
def readMembers (schema : Schema T) (room : Nat) :
    List (Option String × Document) → List String → T → Except ReadFault (List String × T)
  | [], seen, t => .ok (seen, t)
  | (key, d) :: rest, seen, t => do
    let key ← Document.keyText key
    match schema.fields.find? (·.name = key) with
    | some field =>
      if seen.contains key then .error .mismatch
      else
        let set ← field.read room d
        schema.readMembers room rest (key :: seen) (set t)
    | none =>
      match schema.leftovers with
      | some leftovers =>
        let v ← d.toValue room
        schema.readMembers room rest seen (leftovers.put t key v)
      | none =>
        d.skip
        schema.readMembers room rest seen t

/-- Read the items of an array into the fields, one after the other. -/
def readItems (room : Nat) : List (Field T) → List Document → Option Flaw → T → Except ReadFault T
  | [], items, flaw, t =>
    if items.isEmpty then do
      requireNone flaw
      .ok t
    else .error .malformed
  | field :: fields, item :: items, flaw, t => do
    let set ← field.read room item
    readItems room fields items flaw (set t)
  | field :: fields, [], flaw, t => do
    requireNone flaw
    if field.presence = .optional then readItems room fields [] none t else .error .mismatch

/-- Whether every field that an object must have has been given. -/
def complete (schema : Schema T) (seen : List String) : Bool :=
  schema.fields.all fun field => field.presence != .required || seen.contains field.name

/-- Read a record. -/
def read (schema : Schema T) (room : Nat) (d : Document) : Except ReadFault T :=
  match d with
  | .object members flaws =>
    match room with
    | 0 => .error .malformed
    | room + 1 => do
      let (seen, t) ← schema.readMembers room members [] schema.blank
      requireNone (flaws.map Flaws.kept)
      if schema.complete seen then .ok t else .error .mismatch
  | .array items flaw =>
    if schema.leftovers.isSome then .error .mismatch
    else
      match room with
      | 0 => .error .malformed
      | room + 1 => readItems room schema.fields items flaw schema.blank
  | d => .error d.mismatch

/-- The members of the JSON form of a record. -/
def members (schema : Schema T) (t : T) : List (String × Value) :=
  (schema.fields.filterMap fun field => (field.write t).map (field.name, ·)) ++
    match schema.leftovers with
    | some leftovers => (leftovers.get t).toList
    | none => []

/-- The codec of a record type. -/
def codec (schema : Schema T) : Codec T where
  read := schema.read
  write t := .object (schema.members t)

end Schema

end BrokerAdmin.Json
