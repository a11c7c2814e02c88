import BrokerAdmin.Json.Numeral
import BrokerAdmin.Utf8

/-!
# JSON documents

A document is what a JSON text says up to its first flaw. Readers of typed values walk over it in the
order of the text, so of several problems the first one decides, be it a flaw of the text or a value
of the wrong type.

Some flaws only matter to a reader who keeps the value: a text with a lone surrogate or with bytes
that are no UTF-8, and a numeral out of range. A value that is skipped because nobody asked for it is
only checked for its outer form. A place where the text breaks off therefore carries two flaws: the
one that a keeping reader meets, and the one that a skipping reader meets.

## Main definitions

* `Json.Flaw`: the text ends too early, or is malformed.
* `Json.Flaws`: what the two kinds of reader meet in one place.
* `Json.Document`: the tree of a text, with the flaws where they occur.
* `Json.Document.ofBytes`: the document of a text, and whether anything but blanks follows it.
-/

namespace BrokerAdmin.Json

/-- What is wrong with a text. -/
inductive Flaw where
  /-- It ends too early. -/
  | cutOff
  /-- It cannot be continued to a JSON text. -/
  | malformed
  deriving DecidableEq, Repr

/-- What the two kinds of reader meet where a text breaks off. -/
structure Flaws where
  /-- What a reader meets who keeps the value. -/
  kept : Flaw
  /-- What a reader meets who skips the value. -/
  skipped : Flaw
  deriving DecidableEq, Repr

/-- A flaw that both kinds of reader meet. -/
def Flaws.both (flaw : Flaw) : Flaws := ⟨flaw, flaw⟩

/-- What a JSON text says up to its first flaw. A broken item is the last one of its list, and what
is said about the end of that list then has no meaning. -/
inductive Document where
  /-- The value `null`. -/
  | null
  /-- A truth value. -/
  | bool (b : Bool)
  /-- A number. -/
  | number (numeral : Numeral)
  /-- A text; `none` if its escapes and bytes do not encode one. -/
  | string (text : Option String)
  /-- Items, and the flaw in place of the closing bracket, if there is one. -/
  | array (items : List Document) (flaw : Option Flaw)
  /-- Members, and the flaws in place of the next key or of the closing brace, if there are any. The
  key of a member is `none` if its escapes and bytes do not encode a text. -/
  | object (members : List (Option String × Document)) (flaws : Option Flaws)
  /-- Flaws in place of a value. -/
  | broken (flaws : Flaws)
  deriving Repr

namespace Document

instance : Inhabited Document := ⟨.null⟩

/-! ### Blanks and words -/

/-- The blanks of JSON. -/
def isJsonBlank (b : UInt8) : Bool := b = 0x20 || b = 0x0A || b = 0x0D || b = 0x09

/-- The text without the blanks in front. -/
def skipBlanks (bytes : Bytes) : Bytes := bytes.dropWhile isJsonBlank

/-- The rest of a text behind a word. -/
def expectWord : Bytes → Bytes → Except Flaw Bytes
  | [], rest => .ok rest
  | _ :: _, [] => .error .cutOff
  | w :: word, b :: rest => if w = b then expectWord word rest else .error .malformed

/-! ### Strings -/

/-- A piece of a string: a byte, or the number of a `\u` escape. -/
inductive Piece where
  /-- A byte as it stands, or the one that a short escape means. -/
  | byte (b : UInt8)
  /-- The number that four hexadecimal digits denote. -/
  | unit (n : Nat)
  deriving DecidableEq, Repr

/-- The value of a hexadecimal digit. -/
def hexDigit (b : UInt8) : Option Nat :=
  if 48 ≤ b && b ≤ 57 then some (b.toNat - 48)
  else if 65 ≤ b && b ≤ 70 then some (b.toNat - 55)
  else if 97 ≤ b && b ≤ 102 then some (b.toNat - 87)
  else none

/-- The number that four hexadecimal digits denote. -/
def hexUnit (a b c d : UInt8) : Option Nat := do
  let a ← hexDigit a
  let b ← hexDigit b
  let c ← hexDigit c
  let d ← hexDigit d
  some (a * 4096 + b * 256 + c * 16 + d)

/-- The byte that a short escape means. -/
def shortEscape (b : UInt8) : Option UInt8 :=
  if b = 0x22 || b = 0x5C || b = 0x2F then some b
  else if b = 0x62 then some 0x08
  else if b = 0x66 then some 0x0C
  else if b = 0x6E then some 0x0A
  else if b = 0x72 then some 0x0D
  else if b = 0x74 then some 0x09
  else none

/-- The pieces of a string whose opening quote has been read, and the rest behind its closing quote
or the flaw in place of it. -/
def scanPieces : Bytes → List Piece × Except Flaw Bytes
  | [] => ([], .error .cutOff)
  | 0x22 :: rest => ([], .ok rest)
  | 0x5C :: 0x75 :: a :: b :: c :: d :: rest =>
    match hexUnit a b c d with
    | some n =>
      let (pieces, out) := scanPieces rest
      (.unit n :: pieces, out)
    | none => ([], .error .malformed)
  | 0x5C :: 0x75 :: _ => ([], .error .cutOff)
  | 0x5C :: e :: rest =>
    match shortEscape e with
    | some b =>
      let (pieces, out) := scanPieces rest
      (.byte b :: pieces, out)
    | none => ([], .error .malformed)
  | [0x5C] => ([], .error .cutOff)
  | b :: rest =>
    if b < 0x20 then ([], .error .malformed)
    else
      let (pieces, out) := scanPieces rest
      (.byte b :: pieces, out)

/-- Whether an escape starts a pair that stands for one character. -/
def isLeadSurrogate (n : Nat) : Bool := 0xD800 ≤ n && n ≤ 0xDBFF

/-- Whether an escape ends a pair that stands for one character. -/
def isTailSurrogate (n : Nat) : Bool := 0xDC00 ≤ n && n ≤ 0xDFFF

/-- The bytes that pieces encode. A surrogate without its partner is malformed, except that a leading
one at the very end leaves it to `atEnd` what is wrong. -/
def pieceBytes (atEnd : Flaw) : List Piece → Except Flaw Bytes
  | [] => .ok []
  | .byte b :: rest => (pieceBytes atEnd rest).map (b :: ·)
  | [.unit n] =>
    if isTailSurrogate n then .error .malformed
    else if isLeadSurrogate n then .error atEnd
    else .ok (Utf8.encodeChar (Char.ofNat n))
  | .unit n :: .byte b :: rest =>
    if isTailSurrogate n || isLeadSurrogate n then .error .malformed
    else (pieceBytes atEnd (.byte b :: rest)).map (Utf8.encodeChar (Char.ofNat n) ++ ·)
  | .unit n :: .unit m :: rest =>
    if isTailSurrogate n then .error .malformed
    else if isLeadSurrogate n then
      if isTailSurrogate m then
        (pieceBytes atEnd rest).map
          (Utf8.encodeChar (Char.ofNat (0x10000 + (n - 0xD800) * 1024 + (m - 0xDC00))) ++ ·)
      else .error .malformed
    else (pieceBytes atEnd (.unit m :: rest)).map (Utf8.encodeChar (Char.ofNat n) ++ ·)

/-- A string whose opening quote has been read: its text, where `none` means that it encodes none,
and the rest; or the flaws that a keeping and a skipping reader meet. -/
def scanString (bytes : Bytes) : Except Flaws (Option String × Bytes) :=
  match scanPieces bytes with
  | (pieces, .ok rest) =>
    match pieceBytes .malformed pieces with
    | .ok content => .ok (Utf8.decode content, rest)
    | .error _ => .ok (none, rest)
  | (pieces, .error flaw) =>
    match pieceBytes flaw pieces with
    | .ok _ => .error (.both flaw)
    | .error kept => .error ⟨kept, flaw⟩

/-! ### Numerals -/

/-- Whether a byte is a decimal digit. -/
def isDigit (b : UInt8) : Bool := 48 ≤ b && b ≤ 57

/-- The digits at the start of a text, as their values, and the rest. -/
def splitDigits (bytes : Bytes) : List Nat × Bytes :=
  ((bytes.takeWhile isDigit).map (fun b => b.toNat - 48), bytes.dropWhile isDigit)

/-- What is wrong where a digit is missing: a keeping reader sees whether the text has ended. -/
def missingDigit (bytes : Bytes) : Flaws :=
  ⟨if bytes.isEmpty then .cutOff else .malformed, .malformed⟩

/-- The exponent of a numeral, if one is there. -/
def scanExponent (bytes : Bytes) :
    Except Flaws (Option (Bool × List Nat) × Bytes) :=
  match bytes with
  | b :: rest =>
    if b = 0x65 || b = 0x45 then
      let (down, rest) := match rest with
        | 0x2B :: rest => (false, rest)
        | 0x2D :: rest => (true, rest)
        | rest => (false, rest)
      let (digits, rest) := splitDigits rest
      if digits.isEmpty then .error (missingDigit rest) else .ok (some (down, digits), rest)
    else .ok (none, bytes)
  | [] => .ok (none, [])

/-- The fraction of a numeral, if one is there. -/
def scanFraction (bytes : Bytes) : Except Flaws (Option (List Nat) × Bytes) :=
  match bytes with
  | 0x2E :: rest =>
    let (digits, rest) := splitDigits rest
    if digits.isEmpty then .error (missingDigit rest) else .ok (some digits, rest)
  | _ => .ok (none, bytes)

/-- A numeral whose sign has been read. No digit may follow a leading zero. -/
def scanNumeral (negative : Bool) (bytes : Bytes) : Except Flaws (Numeral × Bytes) :=
  let (whole, rest) := splitDigits bytes
  match whole with
  | [] => .error (missingDigit rest)
  | 0 :: _ :: _ => .error (.both .malformed)
  | whole => do
    let (fraction, rest) ← scanFraction rest
    let (exponent, rest) ← scanExponent rest
    .ok (⟨negative, whole, fraction, exponent⟩, rest)

/-! ### Values -/

/-- A document and the rest behind it; no rest if the document is broken somewhere. -/
abbrev Scan := Document × Option Bytes

/-- A value that consists of one word. -/
def scanWord (word : Bytes) (value : Document) (bytes : Bytes) : Scan :=
  match expectWord word bytes with
  | .ok rest => (value, some rest)
  | .error flaw => (.broken (.both flaw), none)

/-- A number whose sign has been read. -/
def scanNumber (negative : Bool) (bytes : Bytes) : Scan :=
  match scanNumeral negative bytes with
  | .ok (numeral, rest) => (.number numeral, some rest)
  | .error flaws => (.broken flaws, none)

mutual

/-- The value at the start of a text. The fuel bounds the steps; twice the length of the text and two
more are enough, since every second step consumes a byte. -/
def scanValue (fuel : Nat) (bytes : Bytes) : Scan :=
  match fuel with
  | 0 => (.broken (.both .cutOff), none)
  | fuel + 1 =>
    match skipBlanks bytes with
    | [] => (.broken (.both .cutOff), none)
    | b :: rest =>
      if b = 0x6E then scanWord [0x75, 0x6C, 0x6C] .null rest
      else if b = 0x74 then scanWord [0x72, 0x75, 0x65] (.bool true) rest
      else if b = 0x66 then scanWord [0x61, 0x6C, 0x73, 0x65] (.bool false) rest
      else if b = 0x2D then scanNumber true rest
      else if isDigit b then scanNumber false (b :: rest)
      else if b = 0x22 then
        match scanString rest with
        | .ok (text, rest) => (.string text, some rest)
        | .error flaws => (.broken flaws, none)
      else if b = 0x5B then
        match skipBlanks rest with
        | [] => (.array [] (some .cutOff), none)
        | 0x5D :: rest => (.array [] none, some rest)
        | rest =>
          let (items, flaw, out) := scanItems fuel rest
          (.array items flaw, out)
      else if b = 0x7B then
        match skipBlanks rest with
        | [] => (.object [] (some (.both .cutOff)), none)
        | 0x7D :: rest => (.object [] none, some rest)
        | rest =>
          let (members, flaws, out) := scanMembers fuel rest
          (.object members flaws, out)
      else (.broken (.both .malformed), none)

/-- One or more items of an array and the closing bracket. -/
def scanItems (fuel : Nat) (bytes : Bytes) : List Document × Option Flaw × Option Bytes :=
  match fuel with
  | 0 => ([.broken (.both .cutOff)], none, none)
  | fuel + 1 =>
    match scanValue fuel bytes with
    | (item, none) => ([item], none, none)
    | (item, some rest) =>
      match skipBlanks rest with
      | [] => ([item], some .cutOff, none)
      | 0x5D :: rest => ([item], none, some rest)
      | 0x2C :: rest =>
        let (items, flaw, out) := scanItems fuel rest
        (item :: items, flaw, out)
      | _ => ([item], some .malformed, none)

/-- One or more members of an object and the closing brace. -/
def scanMembers (fuel : Nat) (bytes : Bytes) :
    List (Option String × Document) × Option Flaws × Option Bytes :=
  match fuel with
  | 0 => ([], some (.both .cutOff), none)
  | fuel + 1 =>
    match skipBlanks bytes with
    | [] => ([], some (.both .cutOff), none)
    | 0x22 :: rest =>
      match scanString rest with
      | .error flaws => ([], some flaws, none)
      | .ok (key, rest) =>
        match skipBlanks rest with
        | [] => ([(key, .broken (.both .cutOff))], none, none)
        | 0x3A :: rest =>
          match scanValue fuel rest with
          | (value, none) => ([(key, value)], none, none)
          | (value, some rest) =>
            match skipBlanks rest with
            | [] => ([(key, value)], some (.both .cutOff), none)
            | 0x7D :: rest => ([(key, value)], none, some rest)
            | 0x2C :: rest =>
              let (members, flaws, out) := scanMembers fuel rest
              ((key, value) :: members, flaws, out)
            | _ => ([(key, value)], some (.both .malformed), none)
        | _ => ([(key, .broken (.both .malformed))], none, none)
    | _ => ([], some (.both .malformed), none)

end

/-- The value at the start of a text and the rest behind it. -/
def next (bytes : Bytes) : Scan := scanValue (2 * bytes.length + 2) bytes

/-- The document of a text, and the flaw behind it, if anything but blanks follows. -/
def ofBytes (bytes : Bytes) : Document × Option Flaw :=
  match next bytes with
  | (document, some rest) =>
    (document, if (skipBlanks rest).isEmpty then none else some .malformed)
  | (document, none) => (document, none)

end Document

end BrokerAdmin.Json
