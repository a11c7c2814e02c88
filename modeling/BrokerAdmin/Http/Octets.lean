import BrokerAdmin.Http

/-!
# Requests and answers as bytes

On a connection a request is a head of lines and a body, and so is an answer. Each connection serves
one request, so an answer whose length is not given goes on until the connection ends.

The parts of a form are set apart by a line that occurs in none of them. Such a line is found by
counting: each part can hold fewer different lines than it has bytes.

## Main definitions

* `Http.Outgoing.toBytes`: the bytes of a request.
* `Http.Reply.ofBytes`: the reply that the bytes of a connection hold.
-/

namespace BrokerAdmin.Http

/-! ### Requests -/

/-- The end of a line. -/
def lineEnd : Bytes := [0x0D, 0x0A]

/-- A line of a head. -/
def headLine (name : String) (value : Bytes) : Bytes :=
  Utf8.encode name ++ Utf8.encode ": " ++ value ++ lineEnd

/-- Whether bytes occur among others. -/
def occursAmong (part : Bytes) : Bytes → Bool
  | [] => part.isEmpty
  | b :: rest => part.isPrefixOf (b :: rest) || occursAmong part rest

/-- A line to set parts apart, by its number. -/
def boundary (n : Nat) : String := "part-boundary-" ++ toString n

/-- The first number from `n` on whose line occurs in no part; so many are tried. -/
def freeNumber (parts : List Bytes) : (tries n : Nat) → Nat
  | 0, n => n
  | tries + 1, n =>
    if parts.any (occursAmong (Utf8.encode (boundary n)) ·) then freeNumber parts tries (n + 1)
    else n

/-- A line that occurs in no part of a form. -/
def formBoundary (form : Form) : String :=
  let parts := form.parts.map (·.data)
  boundary (freeNumber parts parts.flatten.length 0)

/-- A form with a line between its parts. -/
def formBytes (line : String) (form : Form) : Bytes :=
  (form.parts.flatMap fun part =>
    Utf8.encode ("--" ++ line) ++ lineEnd ++
      headLine "content-disposition" (Utf8.encode (disposition part)) ++
      headLine "content-type" (Utf8.encode part.contentType) ++ lineEnd ++ part.data ++ lineEnd) ++
    Utf8.encode ("--" ++ line ++ "--") ++ lineEnd

namespace Outgoing

/-- The type and the bytes of the content. -/
def payload (out : Outgoing) : Option (String × Bytes) :=
  match out.content with
  | .nothing => none
  | .json _ => some (Form.jsonType, out.body)
  | .form form =>
    let line := formBoundary form
    some ("multipart/form-data; boundary=" ++ line, formBytes line form)

/-- The host and the port that a request is sent to. -/
def host (out : Outgoing) : String :=
  match out.url.authority with
  | some a => a.host ++ (a.port.map fun port => ":" ++ toString port).getD ""
  | none => ""

/-- The bytes of a request. -/
def toBytes (out : Outgoing) : Bytes :=
  let body := (out.payload.map (·.2)).getD []
  Utf8.encode (out.method.toText ++ " " ++ out.target ++ " HTTP/1.1") ++ lineEnd ++
    headLine "host" (Utf8.encode out.host) ++
    headLine "accept" (Utf8.encode "*/*") ++
    (match out.referer with
      | some referer => headLine "referer" (Utf8.encode referer)
      | none => []) ++
    out.authorization.flatMap (headLine "authorization") ++
    (match out.payload with
      | some (type, _) => headLine "content-type" (Utf8.encode type)
      | none => []) ++
    headLine "content-length" (Utf8.encode (toString body.length)) ++
    headLine "connection" (Utf8.encode "close") ++ lineEnd ++ body

end Outgoing

/-! ### Answers -/

/-- A line without the carriage return at its end. -/
def withoutReturn (line : Bytes) : Bytes :=
  if line.getLast? = some 0x0D then line.dropLast else line

/-- The first line and what follows it. -/
def splitLine : Bytes → Option (Bytes × Bytes)
  | [] => none
  | b :: rest =>
    if b = 0x0A then some ([], rest)
    else (splitLine rest).map fun (line, rest) => (b :: line, rest)

/-- The lines up to an empty one and what follows it; so many lines are read. -/
def splitHead : Nat → Bytes → Option (List Bytes × Bytes)
  | 0, _ => none
  | n + 1, bytes => do
    let (line, rest) ← splitLine bytes
    let line := withoutReturn line
    if line.isEmpty then some ([], rest)
    else do
      let (lines, rest) ← splitHead n rest
      some (line :: lines, rest)

/-- The number that digits to a base stand for, if there are some. -/
def digits (base : Nat) (cs : Bytes) : Option Nat :=
  if cs.isEmpty then none
  else cs.foldlM (fun n b => do
    let d ← Percent.hexValue (Char.ofNat b.toNat)
    if d < base then some (n * base + d) else none) 0

/-- The status in the first line of an answer. -/
def statusOfLine (line : Bytes) : Option Status := do
  if (Utf8.encode "HTTP/1.").isPrefixOf line then
    let rest := (line.dropWhile (· != 0x20)).drop 1
    let status := rest.takeWhile (· != 0x20)
    if status.length = 3 then digits 10 status else none
  else none

/-- Whether a byte may stand in the name of a header. -/
def isNameByte (b : UInt8) : Bool :=
  (Char.ofNat b.toNat).isAlphanum || (Utf8.encode "!#$%&'*+-.^_`|~").contains b

/-- The header in a line. -/
def headerOfLine (line : Bytes) : Option (String × Bytes) :=
  let name := line.takeWhile (· != 0x3A)
  match line.dropWhile (· != 0x3A) with
  | _ :: value =>
    if !name.isEmpty && name.all isNameByte && value.all isHeaderByte then
      some (Headers.lower (Utf8.decodeLossy name), arriving value)
    else none
  | [] => none

/-- The body that is sent in pieces, each behind its length; so many pieces are read. -/
def joinPieces : Nat → Bytes → Option Bytes
  | 0, _ => none
  | n + 1, bytes => do
    let (line, rest) ← splitLine bytes
    let size ← digits 16 ((withoutReturn line).takeWhile fun b => b != 0x3B && b != 0x20)
    if size = 0 then some []
    else do
      let (piece, rest) ← rest.splitExactly size
      let (_, rest) ← splitLine rest
      let others ← joinPieces n rest
      some (piece ++ others)

/-- The body of an answer, unless it breaks off. -/
def bodyOf (status : Status) (headers : Headers) (bytes : Bytes) : Option Bytes :=
  if isBodiless status then some []
  else if (headers.get? "transfer-encoding").isSome then joinPieces bytes.length bytes
  else
    match headers.get? "content-length" with
    | some value => do
      let n ← digits 10 value
      let (body, _) ← bytes.splitExactly n
      some body
    | none => some bytes

/-- Whether a status only announces another answer. -/
def isInterim (status : Status) : Bool := 100 ≤ status && status < 200

/-- The first answer in bytes that is no announcement; so many announcements are passed over. -/
def readReply : Nat → Bytes → Reply
  | 0, _ => .silence
  | n + 1, bytes =>
    match splitHead bytes.length bytes with
    | some (first :: lines, rest) =>
      match statusOfLine first, lines.mapM headerOfLine with
      | some status, some headers =>
        if isInterim status then readReply n rest
        else
          match bodyOf status headers rest with
          | some body => .complete ⟨status, headers, body⟩
          | none => .brokenOff status headers
      | _, _ => .silence
    | _ => .silence

/-- The reply that the bytes of a connection hold. -/
def Reply.ofBytes (bytes : Bytes) : Reply := readReply bytes.length bytes

end BrokerAdmin.Http
