import BrokerAdmin.Text

/-!
# Properties of characters

A property of characters is given by runs: from which code point on it has which value. A run has a
kind, which is a letter, and some numbers, which mean what the property says.

## Why the runs are text

The runs of a property number hundreds or thousands, and most say nothing but how long they are. They
are therefore written one behind the other, without their first code points: a run is its letter,
then its length, then its numbers behind points. Numbers are to the base 36, and a length of one is
left out. So `V3 Sq.w` says that the first three characters are of the kind `V`, and that the next 26
are of the kind `S` with the number 32.

Where a property does not matter for a character, for instance because no text that is asked about
can hold it, the run before it goes on.

## Main definitions

* `Unicode.Run`, `Unicode.Runs.ofText`: runs, and how they are read.
* `Unicode.Runs.find`: the run that a character lies in.
-/

namespace BrokerAdmin.Unicode

/-- Neighbouring code points of the same kind. -/
structure Run where
  /-- The first of them. -/
  start : Nat
  /-- The kind. -/
  kind : Char
  /-- What the kind needs to be known. -/
  numbers : List Int
  deriving DecidableEq, Repr, Inhabited

/-- Runs in order, the first of which starts at zero. -/
abbrev Runs := Array Run

namespace Runs

/-- The value of a digit to the base 36. -/
def digit (c : Char) : Nat := if c.isDigit then c.toNat - 48 else c.toNat - 87

/-- The number that digits denote. -/
def number : List Char → Int
  | '-' :: digits => -number digits
  | digits => digits.foldl (fun n c => 36 * n + digit c) 0

/-- Add the run that a token stands for. The number is where it starts, and becomes where it ends. -/
def read : Runs × Nat → List Char → Runs × Nat
  | (runs, start), kind :: token =>
    match splitFields '.' token with
    | length :: numbers =>
      (runs.push ⟨start, kind, numbers.map number⟩,
        start + if length.isEmpty then 1 else (number length).toNat)
    | [] => (runs, start)
  | state, [] => state

/-- The runs that lines of text stand for. -/
def ofText (lines : List String) : Runs :=
  ((lines.flatMap fun line => splitFields ' ' line.toList).foldl read (#[], 0)).1

/-- The place of the last run that starts at `n` or before, between two places. -/
def locate (runs : Runs) (n low high : Nat) : Nat :=
  if low + 1 < high then
    let middle := (low + high) / 2
    if (runs[middle]?.getD default).start ≤ n then locate runs n middle high
    else locate runs n low middle
  else low
termination_by high - low

/-- The run that a character lies in. -/
def find (runs : Runs) (c : Char) : Run := runs[locate runs c.toNat 0 runs.size]?.getD default

/-- The kind of a character. -/
def kind (runs : Runs) (c : Char) : Char := (runs.find c).kind

end Runs

end BrokerAdmin.Unicode
