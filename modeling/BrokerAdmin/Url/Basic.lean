import BrokerAdmin.Text
import BrokerAdmin.Url.Percent

/-!
# Addresses

An address has a scheme, possibly an authority (credentials, host and port), a path, and possibly a
query and a fragment. Its parts are kept encoded, as they are written. The path is a list of segments,
or a text without structure for an address such as `mailto:x`, which no path can be joined to.

## Main definitions

* `Url`: an address, with `Url.toText`.
* `Url.pushSegment`, `Url.joinSegments`: one segment, and several, joined to a path.
* `Url.appendQuery`: names and values behind the query that is there.
-/

namespace BrokerAdmin

/-- Who answers at an address. -/
structure Authority where
  /-- The user name, possibly empty. -/
  username : String
  /-- The password, if it is not empty. -/
  password : Option String
  /-- The host. -/
  host : String
  /-- The port, unless it is the one that the scheme stands for. -/
  port : Option Nat
  deriving DecidableEq, Repr

/-- The path of an address. -/
inductive UrlPath where
  /-- A text without structure. -/
  | rootless (text : String)
  /-- Segments, each behind a slash. -/
  | segments (segments : List String)
  deriving DecidableEq, Repr

/-- An address. -/
structure Url where
  /-- The scheme, in lower case. -/
  scheme : String
  /-- Who answers. -/
  authority : Option Authority
  /-- Whether a point in front of the path keeps its first two slashes from introducing a host. -/
  guarded : Bool := false
  /-- The path. -/
  path : UrlPath
  /-- The query. -/
  query : Option String
  /-- The fragment. -/
  fragment : Option String
  deriving DecidableEq, Repr

namespace Url

/-- The port that a scheme stands for; the schemes that have one are those with a meaning of their
own for hosts and backslashes. -/
def defaultPort (scheme : String) : Option Nat :=
  if scheme = "http" || scheme = "ws" then some 80
  else if scheme = "https" || scheme = "wss" then some 443
  else if scheme = "ftp" then some 21
  else none

/-- Whether a scheme has rules of its own. -/
def isSpecial (scheme : String) : Bool := (defaultPort scheme).isSome || scheme = "file"

/-- The text of an authority. -/
def authorityText (a : Authority) : List Char :=
  let user :=
    a.username.toList ++ match a.password with
      | some password => ':' :: password.toList
      | none => []
  (if user.isEmpty then [] else user ++ ['@']) ++ a.host.toList ++
    match a.port with
    | some port => ':' :: Nat.toDigits 10 port
    | none => []

/-- The text of segments. -/
def segmentsText (segments : List String) : List Char := segments.flatMap fun s => '/' :: s.toList

/-- The text of a path. -/
def pathText (url : Url) : List Char :=
  match url.path with
  | .rootless text => text.toList
  | .segments segments => segmentsText segments

/-- The text of a query and what introduces it. -/
def queryText (url : Url) : List Char :=
  match url.query with
  | some query => '?' :: query.toList
  | none => []

/-- The characters of an address. -/
def toChars (url : Url) : List Char :=
  url.scheme.toList ++ ':' ::
    (match url.authority with
      | some a => '/' :: '/' :: authorityText a
      | none => []) ++
    (if url.guarded then ['/', '.'] else []) ++ url.pathText ++ url.queryText ++
    match url.fragment with
    | some fragment => '#' :: fragment.toList
    | none => []

/-- The text of an address. -/
def toText (url : Url) : String := String.ofList url.toChars

/-- What a request asks for: path and query. -/
def target (url : Url) : String := String.ofList (url.pathText ++ url.queryText)

/-! ### Drives -/

/-- Whether a segment begins with a drive: a letter and a colon or a bar, and nothing else up to its
end or a backslash. -/
def beginsWithDrive : List Char → Bool
  | letter :: mark :: rest =>
    letter.isAlpha && (mark = ':' || mark = '|') && (rest.isEmpty || rest.head? = some '\\')
  | _ => false

/-- Whether a segment is a drive. -/
def isDrive (cs : List Char) : Bool := beginsWithDrive cs && cs.length = 2

/-- The segments above a place. There is no way up from a drive. -/
def above (segments : List String) : List String :=
  if segments.getLast?.any (beginsWithDrive ·.toList) then segments else segments.dropLast

/-- A segment that is added to others. The first segment of the path to a file may name a drive,
which is written with a colon. -/
def addSegment (scheme : String) (segments : List String) (encoded : List Char) : List String :=
  if scheme = "file" && segments.isEmpty && isDrive encoded then
    [String.ofList (encoded.take 1 ++ [':'])]
  else segments ++ [String.ofList encoded]

/-! ### Joining segments -/

/-- Segments without an empty last one, unless it is the only one. -/
def dropTrailing (segments : List String) : List String :=
  if 1 < segments.length && segments.getLast? = some "" then segments.dropLast else segments

/-- Segments to add to: an empty path of one slash is filled, not continued. -/
def openEnd (segments : List String) : List String := if segments = [""] then [] else segments

/-- Tabs and line ends never are part of an address. -/
def isRemoved (c : Char) : Bool := c = '\t' || c = '\n' || c = '\r'

/-- The encoded form of a segment. -/
def encodeSegment (special : Bool) (s : String) : List Char :=
  Percent.encode (Percent.segmentSet special) (s.toList.filter (!isRemoved ·))

/-- Add a segment to a path. The segments `.` and `..` are passed over; one that only becomes `.` or
`..` when tabs and line ends are removed still means this place or the one above. -/
def pushSegment (scheme : String) (segments : List String) (s : String) : List String :=
  if s = "." || s = ".." then segments
  else
    let encoded := encodeSegment (isSpecial scheme) s
    if encoded = ['.', '.'] then above (openEnd segments) ++ [""]
    else if encoded = ['.'] then openEnd segments ++ [""]
    else addSegment scheme (openEnd segments) encoded

/-- Segments joined to a path, whose trailing slash does not count. -/
def joinSegments (scheme : String) (path added : List String) : List String :=
  added.foldl (pushSegment scheme) (dropTrailing path)

/-! ### Names and values -/

/-- A name and a value. -/
def pairText (pair : String × String) : List Char :=
  Percent.formEncode pair.1 ++ '=' :: Percent.formEncode pair.2

/-- Add a name and a value to a query. -/
def appendPair (query : List Char) (pair : String × String) : List Char :=
  (if query.isEmpty then [] else query ++ ['&']) ++ pairText pair

/-- Names and values behind the query that is there. -/
def appendQuery (url : Url) (pairs : List (String × String)) : Url :=
  if pairs.isEmpty then url
  else
    { url with
      query := some (String.ofList (pairs.foldl appendPair ((url.query.getD "").toList))) }

/-- The names and values of a query. -/
def queryPairs (query : String) : List (String × String) :=
  ((splitFields '&' query.toList).filter (!·.isEmpty)).map fun cs =>
    (Percent.formDecode (cs.takeWhile (· != '=')),
      Percent.formDecode ((cs.dropWhile (· != '=')).drop 1))

end Url

end BrokerAdmin
