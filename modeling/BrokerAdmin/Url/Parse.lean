import BrokerAdmin.Url.Basic
import BrokerAdmin.Url.Host

/-!
# Reading addresses

An address is read from left to right: scheme, authority, path, query, fragment. Control characters
and spaces around it and tabs and line ends anywhere in it are removed first. For the special schemes
a backslash is a slash, any number of slashes introduces the host, and the path has at least one
segment. Segments `.` and `..` of a path are resolved, and everything that must be is
percent-encoded.

## Main definitions

* `Url.parse`: the address that a text denotes, or why it denotes none.
-/

namespace BrokerAdmin.Url

/-- A text without control characters and spaces around it and without tabs and line ends. -/
def cleaned (s : String) : List Char :=
  let outer (c : Char) : Bool := c.toNat ≤ 0x20
  let cs := ((s.toList.dropWhile outer).reverse.dropWhile outer).reverse
  cs.filter (!isRemoved ·)

/-- Whether a character may stand in a scheme behind the first one. -/
def isSchemeChar (c : Char) : Bool := c.isAlphanum || c = '+' || c = '-' || c = '.'

/-- The scheme in lower case and what follows its colon. -/
def splitScheme (cs : List Char) : Option (String × List Char) :=
  match cs with
  | [] => none
  | c :: _ =>
    if c.isAlpha then
      match cs.dropWhile isSchemeChar with
      | ':' :: rest => some (String.ofList ((cs.takeWhile isSchemeChar).map Char.toLower), rest)
      | _ => none
    else none

/-- Whether a character ends an authority. -/
def endsAuthority (special : Bool) (c : Char) : Bool :=
  c = '/' || c = '?' || c = '#' || (special && c = '\\')

/-- The credentials in front of the last at sign: user name and password. -/
def parseUser (cs : List Char) : String × Option String :=
  let encode (cs : List Char) := String.ofList (Percent.encode Percent.userSet cs)
  let password := (cs.dropWhile (· != ':')).drop 1
  (encode (cs.takeWhile (· != ':')), if password.isEmpty then none else some (encode password))

/-- The text of a host and what follows it: a colon ends it outside of brackets. -/
def splitHost : (bracketed : Bool) → List Char → List Char × List Char
  | _, [] => ([], [])
  | bracketed, c :: cs =>
    if c = ':' && !bracketed then ([], c :: cs)
    else
      let (host, rest) := splitHost (c = '[' || (bracketed && c != ']')) cs
      (c :: host, rest)

/-- The port that digits denote: none if there is no digit or if the scheme stands for it. -/
def parsePort (scheme : String) (cs : List Char) : Except Fault (Option Nat) :=
  if cs.all (fun c => '0' ≤ c && c ≤ '9') then
    match Host.numberOf 10 cs with
    | some n =>
      if 65535 < n then .error .invalidPort
      else if cs.isEmpty || defaultPort scheme = some n then .ok none
      else .ok (some n)
    | none => .error .invalidPort
  else .error .invalidPort

/-- The authority at the start of a text, and the rest of the text. A backslash behind the port
belongs to the rest. -/
def parseAuthority (scheme : String) (cs : List Char) : Except Fault (Authority × List Char) := do
  let special := isSpecial scheme
  let text := cs.takeWhile (!endsAuthority special ·)
  let rest := cs.dropWhile (!endsAuthority special ·)
  let hostText := (text.reverse.takeWhile (· != '@')).reverse
  let hasUser := hostText.length != text.length
  let userText := text.take (text.length - hostText.length - 1)
  if hasUser && userText.isEmpty && hostText.isEmpty && !rest.isEmpty then .error .emptyHost
  else
    let (username, password) := if hasUser then parseUser userText else ("", none)
    let (host, portText) := splitHost false hostText
    if special && host.isEmpty then .error .emptyHost
    else
      let host ← if special then Host.parseSpecial host else Host.parseOther host
      let port ← match portText with
        | [] => .ok none
        | _ :: digits =>
          if host.isEmpty then .error .emptyHost
          else parsePort scheme (digits.takeWhile (· != '\\'))
      if host.isEmpty && (username != "" || password.isSome) then .error .emptyHost
      else
        .ok (⟨username, password, String.ofList host, port⟩, portText.dropWhile (· != '\\') ++ rest)

/-! ### Paths -/

/-- The ways to write a point in a segment. -/
def decodeDots : List Char → List Char
  | '%' :: '2' :: 'e' :: rest | '%' :: '2' :: 'E' :: rest => '.' :: decodeDots rest
  | c :: rest => c :: decodeDots rest
  | [] => []

/-- Add a segment that has been read. A segment that means this place or the one above only leaves
a trace at the end. -/
def closeSegment (scheme : String) (segments : List String) (cs : List Char) (last : Bool) :
    List String :=
  let encoded := Percent.encode Percent.pathSet cs
  let dots := decodeDots encoded
  let trace := if last then [""] else []
  if dots = ['.', '.'] then above segments ++ trace
  else if dots = ['.'] then segments ++ trace
  else addSegment scheme segments encoded

/-- Add the segments that have been read. -/
def closeSegments (scheme : String) : List String → List (List Char) → List String
  | segments, [] => segments
  | segments, [cs] => closeSegment scheme segments cs true
  | segments, cs :: rest => closeSegments scheme (closeSegment scheme segments cs false) rest

/-- The segments of a path without its first slash. -/
def parseSegments (scheme : String) (cs : List Char) : List String :=
  let cs := if isSpecial scheme then cs.map fun c => if c = '\\' then '/' else c else cs
  closeSegments scheme [] (splitFields '/' cs)

/-- The path behind an authority. -/
def parsePath (scheme : String) (cs : List Char) : List String :=
  match cs with
  | [] => if isSpecial scheme then [""] else []
  | c :: rest =>
    if c = '/' || (isSpecial scheme && c = '\\') then parseSegments scheme rest
    else parseSegments scheme (c :: rest)

/-! ### Addresses -/

/-- A text cut at its fragment and at its query. -/
def splitTail (cs : List Char) : List Char × Option (List Char) × Option (List Char) :=
  let front := cs.takeWhile (· != '#')
  let fragment := (cs.dropWhile (· != '#'))
  let path := front.takeWhile (· != '?')
  let query := front.dropWhile (· != '?')
  (path, if query.isEmpty then none else some (query.drop 1),
    if fragment.isEmpty then none else some (fragment.drop 1))

/-- An address with the query and the fragment encoded. -/
def withTail (scheme : String) (authority : Option Authority) (path : UrlPath)
    (query fragment : Option (List Char)) : Url where
  scheme := scheme
  authority := authority
  path := path
  query := query.map fun cs =>
    String.ofList (Percent.encode (Percent.querySet (isSpecial scheme)) cs)
  fragment := fragment.map fun cs => String.ofList (Percent.encode Percent.fragmentSet cs)

/-- The rest of an address behind the slashes that introduce its host. -/
def parseHierarchy (scheme : String) (cs : List Char) : Except Fault Url := do
  let (authority, rest) ← parseAuthority scheme cs
  let (path, query, fragment) := splitTail rest
  .ok (withTail scheme (some authority) (.segments (parsePath scheme path)) query fragment)

/-- The segments of a file, without the empty ones in front. -/
def fileSegments (segments : List String) : List String :=
  match segments.dropWhile (· = "") with
  | [] => [""]
  | segments => segments

/-- The host of a file and the path behind it. A drive in place of the host begins the path. -/
def splitFileHost : List Char → List Char × List Char
  | '/' :: '/' :: rest =>
    let host := rest.takeWhile (· != '/')
    if isDrive host then ([], rest) else (host, rest.dropWhile (· != '/'))
  | rest => ([], rest)

/-- The rest of the address of a file. The host may be missing, and this one is not written. A path
that begins with a drive has no host. -/
def parseFile (cs : List Char) : Except Fault Url := do
  let (path, query, fragment) := splitTail cs
  let (host, path) := splitFileHost (path.map fun c => if c = '\\' then '/' else c)
  let host ← if host.isEmpty then .ok [] else Host.parseSpecial host
  let segments := parseSegments "file" (path.drop (if path.head? = some '/' then 1 else 0))
  let onDrive := segments.head?.any (isDrive ·.toList)
  let host := if onDrive || host = "localhost".toList then [] else host
  .ok (withTail "file" (some ⟨"", none, String.ofList host, none⟩)
    (.segments (fileSegments segments)) query fragment)

/-- The rest of an address that has no host, behind its first slash. A path that begins with two
slashes is guarded. -/
def parseRooted (scheme : String) (cs : List Char) : Url :=
  let (path, query, fragment) := splitTail cs
  let segments := parseSegments scheme path
  { withTail scheme none (.segments segments) query fragment with
    guarded := segments.head? = some "" && 1 < segments.length }

/-- The rest of an address without a root. -/
def parseRootless (scheme : String) (cs : List Char) : Url :=
  let (path, query, fragment) := splitTail cs
  withTail scheme none (.rootless (String.ofList (Percent.encode Percent.controlSet path))) query
    fragment

/-- The address that a text denotes. -/
def parse (s : String) : Except Fault Url :=
  match splitScheme (cleaned s) with
  | none => .error .relative
  | some (scheme, rest) =>
    if scheme = "file" then parseFile rest
    else if isSpecial scheme then
      parseHierarchy scheme (rest.dropWhile fun c => c = '/' || c = '\\')
    else
      match rest with
      | '/' :: '/' :: rest => parseHierarchy scheme rest
      | '/' :: rest => .ok (parseRooted scheme rest)
      | rest => .ok (parseRootless scheme rest)

end BrokerAdmin.Url
