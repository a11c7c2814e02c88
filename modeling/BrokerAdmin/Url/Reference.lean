import BrokerAdmin.Url.Parse

/-!
# Addresses seen from others

A place may be named by as much of its address as differs from the one it is seen from. What is
missing in front is taken from there: the scheme, the host, the path up to its last slash, or all but
the fragment. The full text is then read like any other.

## Main definitions

* `Url.resolve`: the address that a text denotes, seen from another.
-/

namespace BrokerAdmin.Url

/-- The characters of an address in front of its path. -/
def front (url : Url) : List Char :=
  { url with path := .segments [], query := none, fragment := none : Url }.toChars

/-- The path up to its last slash. -/
def folder (url : Url) : List Char := (url.pathText.reverse.dropWhile (· != '/')).reverse

/-- Whether a character is a slash in an address of a scheme. -/
def isSlash (scheme : String) (c : Char) : Bool := c = '/' || (isSpecial scheme && c = '\\')

/-- A text without a scheme with what it lacks in front. -/
def complete (base : Url) (cs : List Char) : List Char :=
  match cs.takeWhile (isSlash base.scheme), cs with
  | _ :: _ :: _, _ => base.scheme.toList ++ ':' :: cs
  | [_], _ => base.front ++ cs
  | [], [] => base.front ++ base.pathText ++ base.queryText
  | [], c :: _ =>
    if c = '?' then base.front ++ base.pathText ++ cs
    else if c = '#' then base.front ++ base.pathText ++ base.queryText ++ cs
    else base.front ++ base.folder ++ cs

/-- The address that a text denotes, seen from another. The scheme of that one may be written again
although no host follows, if it is a scheme with rules of its own. -/
def resolve (base : Url) (s : String) : Except Fault Url :=
  match splitScheme (cleaned s) with
  | none => parse (String.ofList (base.complete (cleaned s)))
  | some (scheme, rest) =>
    if scheme = base.scheme && isSpecial scheme &&
        (rest.takeWhile (isSlash scheme)).length < 2 then
      parse (String.ofList (base.complete rest))
    else parse s

end BrokerAdmin.Url
