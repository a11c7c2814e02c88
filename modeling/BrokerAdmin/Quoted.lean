import BrokerAdmin.Unicode.Hidden

/-!
# Text between quotes

Messages show the path of a file between quotes, so that a reader sees where it ends and what is in
it. Quotes and backslashes are escaped, and so is every character that a reader could not see by
itself.

## Main definitions

* `Quoted.encode`: a text between quotes.
-/

namespace BrokerAdmin.Quoted

/-- One character between quotes. -/
def encodeChar (c : Char) : List Char :=
  if c = '"' then ['\\', '"']
  else if c = '\\' then ['\\', '\\']
  else if c = '\n' then ['\\', 'n']
  else if c = '\r' then ['\\', 'r']
  else if c = '\t' then ['\\', 't']
  else if c = Char.ofNat 0 then ['\\', '0']
  else if Unicode.isHidden c then ['\\', 'u', '\x7b'] ++ Nat.toDigits 16 c.toNat ++ ['\x7d']
  else [c]

/-- A text between quotes. -/
def encode (s : String) : String :=
  String.ofList ('"' :: s.toList.flatMap encodeChar ++ ['"'])

end BrokerAdmin.Quoted
