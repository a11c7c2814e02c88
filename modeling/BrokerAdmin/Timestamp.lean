import BrokerAdmin.Binary64.Shortest

/-!
# Points in time

Publish times come as text in the form of RFC 3339: a date and a time of day of fixed width, an
optional fraction of the second, and the offset from universal time. Only the point in time is kept,
as seconds since 1970 and a rest in nanoseconds. Second 60, a leap second, is the second before it
with a rest of more than a second.

## Main definitions

* `Timestamp`: a point in time.
* `daysFromCivil`: the number of a day of the Gregorian calendar.
* `Timestamp.parse`: the point in time that a text denotes.
-/

namespace BrokerAdmin

/-- A point in time. -/
structure Timestamp where
  /-- The whole seconds since the start of 1970, rounded down. -/
  seconds : Int
  /-- The rest in nanoseconds. -/
  nanoseconds : Nat
  deriving DecidableEq, Repr

/-- Whether a year of the Gregorian calendar has a 29th of February. -/
def isLeapYear (year : Nat) : Bool := (year % 4 = 0 && year % 100 != 0) || year % 400 = 0

/-- The number of days of a month. -/
def daysInMonth (year month : Nat) : Nat :=
  if month = 2 then (if isLeapYear year then 29 else 28)
  else if month = 4 || month = 6 || month = 9 || month = 11 then 30
  else 31

/-- The days from the start of 1970 to a date. Years are counted from March, so that the day that leap
years add is the last one of a year. -/
def daysFromCivil (year month day : Nat) : Int :=
  let y : Int := if month ≤ 2 then (year : Int) - 1 else year
  let m := (month + 9) % 12
  365 * y + y / 4 - y / 100 + y / 400 + ((153 * m + 2) / 5 : Nat) + (day - 1 : Nat) - 719468

namespace Timestamp

/-- A number of exactly `n` digits at the start of a text, and the rest. -/
def number (n : Nat) (cs : List Char) : Option (Nat × List Char) :=
  let digits := cs.take n
  if digits.length = n && digits.all (fun c => '0' ≤ c && c ≤ '9') then
    some (Binary64.natOfDigits (digits.map (fun c => c.toNat - 48)), cs.drop n)
  else none

/-- The rest of a text behind a character. -/
def expect (allowed : Char → Bool) : List Char → Option (List Char)
  | [] => none
  | c :: cs => if allowed c then some cs else none

/-- The nanoseconds of a fraction, if one is there; digits behind the ninth are dropped. -/
def fraction : List Char → Option (Nat × List Char)
  | '.' :: cs =>
    let (digits, rest) := Binary64.splitDigits cs
    if digits.isEmpty then none
    else
      let used := digits.take 9
      some (Binary64.natOfDigits used * Nat.pow 10 (9 - used.length), rest)
  | cs => some (0, cs)

/-- The offset from universal time in seconds, which ends the text. -/
def offset (cs : List Char) : Option Int :=
  match cs with
  | ['Z'] | ['z'] => some 0
  | sign :: cs => do
    let negative ←
      if sign = '+' then some false
      else if sign = '-' || sign = '\u2212' then some true
      else none
    let (hours, cs) ← number 2 cs
    let cs ← expect (· = ':') cs
    let (minutes, cs) ← number 2 cs
    if hours ≤ 23 && minutes ≤ 59 && cs.isEmpty then
      let seconds : Int := hours * 3600 + minutes * 60
      some (if negative then -seconds else seconds)
    else none
  | [] => none

/-- The point in time that a text denotes. -/
def parse (s : String) : Option Timestamp := do
  let (year, cs) ← number 4 s.toList
  let cs ← expect (· = '-') cs
  let (month, cs) ← number 2 cs
  let cs ← expect (· = '-') cs
  let (day, cs) ← number 2 cs
  let cs ← expect (fun c => c = 'T' || c = 't' || c = ' ') cs
  let (hour, cs) ← number 2 cs
  let cs ← expect (· = ':') cs
  let (minute, cs) ← number 2 cs
  let cs ← expect (· = ':') cs
  let (second, cs) ← number 2 cs
  let (nanoseconds, cs) ← fraction cs
  let offset ← offset cs
  if 1 ≤ month && month ≤ 12 && 1 ≤ day && day ≤ daysInMonth year month && hour ≤ 23 &&
      minute ≤ 59 && second ≤ 60 then
    let days := daysFromCivil year month day
    let clock : Int := (hour * 3600 + minute * 60 + min second 59 : Nat)
    some ⟨days * 86400 + clock - offset, nanoseconds + (second - 59) * 1000000000⟩
  else none

end Timestamp

end BrokerAdmin
