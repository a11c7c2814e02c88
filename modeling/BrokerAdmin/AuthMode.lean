import BrokerAdmin.Error

/-!
# Authorization of subscription names

## Main definitions

* `AuthMode`: how the subscription names of a namespace are authorized.
* `AuthMode.ofText`, `AuthMode.toText`: the two names.
* `AuthMode.ofJson`: the mode that a JSON text names, as a string or as an object with that one key.
-/

namespace BrokerAdmin

/-- How the subscription names of a namespace are authorized. -/
inductive AuthMode where
  /-- Any name may be used. -/
  | unrestricted
  /-- A name must begin with the role of its user. -/
  | rolePrefixed
  deriving DecidableEq, Repr

namespace AuthMode

open Json

/-- The name of a mode. -/
def toText : AuthMode → String
  | .unrestricted => "None"
  | .rolePrefixed => "Prefix"

/-- The mode of a name. -/
def named (s : String) : Option AuthMode :=
  if s = "None" then some .unrestricted
  else if s = "Prefix" then some .rolePrefixed
  else none

/-- The mode of a name, with the error that names the text. -/
def ofText (s : String) : Except ValueError AuthMode :=
  match named s with
  | some mode => .ok mode
  | none => .error (.invalidAuthMode s)

/-- The mode that a document names. -/
def ofDocument : Document → Except ReadFault AuthMode
  | .string (some s) =>
    match named s with
    | some mode => .ok mode
    | none => .error .mismatch
  | d => .error d.mismatch

/-- The `null` behind the name of a mode, as the value of a member, up to the closing brace. -/
def readMember (mode : AuthMode) (bytes : Bytes) : Except ReadFault (AuthMode × Bytes) :=
  match Document.skipBlanks bytes with
  | [] => .error .cutOff
  | 0x3A :: rest =>
    match Document.next rest with
    | (.null, some rest) =>
      match Document.skipBlanks rest with
      | [] => .error .cutOff
      | 0x7D :: rest => .ok (mode, rest)
      | _ => .error .malformed
    | (d, _) => .error d.mismatch
  | _ => .error .malformed

/-- The mode that a JSON text names. What else a text may hold is refused at its first character. -/
def ofJson (bytes : Bytes) : Except ReadFault AuthMode := do
  let (mode, rest) ←
    match Document.skipBlanks bytes with
    | [] => .error .cutOff
    | 0x22 :: rest =>
      match Document.next (0x22 :: rest) with
      | (d, some rest) => (ofDocument d).map ((·, rest))
      | (d, none) => .error d.mismatch
    | 0x7B :: rest =>
      match Document.next rest with
      | (d, some rest) => ofDocument d >>= (readMember · rest)
      | (d, none) => .error d.mismatch
    | _ => .error .malformed
  if (Document.skipBlanks rest).isEmpty then .ok mode else .error .malformed

/-- The JSON form of a mode. -/
def toJson (mode : AuthMode) : Value := .string mode.toText

end AuthMode

end BrokerAdmin
