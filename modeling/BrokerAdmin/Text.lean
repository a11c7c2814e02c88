/-!
# Cutting text

Names, paths and options are texts with separators and known beginnings or ends. The functions here
cut lists of characters, on which laws are easy to state.

## Main definitions

* `splitFields`: the pieces between the occurrences of a separator.
* `dropFront`, `dropBack`: a text without a known beginning or end.
* `splitLast`: a text cut at the last occurrence of another.
-/

namespace BrokerAdmin

/-- The pieces between the occurrences of `sep`; one more than there are occurrences. -/
def splitFields (sep : Char) : List Char → List (List Char)
  | [] => [[]]
  | c :: cs =>
    if c = sep then [] :: splitFields sep cs
    else
      match splitFields sep cs with
      | [] => [[c]]
      | field :: fields => (c :: field) :: fields

/-- Pieces put together again with `sep` between them. -/
def joinFields (sep : Char) : List (List Char) → List Char
  | [] => []
  | [field] => field
  | field :: fields => field ++ sep :: joinFields sep fields

theorem splitFields_ne_nil (sep : Char) (cs : List Char) : splitFields sep cs ≠ [] := by
  cases cs with
  | nil => simp [splitFields]
  | cons c cs =>
    unfold splitFields
    split
    · simp
    · split <;> simp

theorem joinFields_splitFields (sep : Char) (cs : List Char) :
    joinFields sep (splitFields sep cs) = cs := by
  induction cs with
  | nil => rfl
  | cons c cs ih =>
    unfold splitFields
    split
    · rename_i h
      cases hs : splitFields sep cs with
      | nil => exact absurd hs (splitFields_ne_nil sep cs)
      | cons field fields =>
        rw [hs] at ih
        simp [joinFields, ih, h]
    · cases hs : splitFields sep cs with
      | nil => exact absurd hs (splitFields_ne_nil sep cs)
      | cons field fields =>
        rw [hs] at ih
        cases fields with
        | nil => simpa [joinFields] using ih
        | cons field' fields => simpa [joinFields] using ih

/-- The characters behind `front`, if the list begins with it. -/
def dropFront : List Char → List Char → Option (List Char)
  | [], cs => some cs
  | _ :: _, [] => none
  | f :: front, c :: cs => if f = c then dropFront front cs else none

theorem dropFront_eq_some_iff {front cs rest : List Char} :
    dropFront front cs = some rest ↔ cs = front ++ rest := by
  induction front generalizing cs with
  | nil => simp [dropFront, eq_comm]
  | cons f front ih =>
    cases cs with
    | nil => simp [dropFront]
    | cons c cs =>
      unfold dropFront
      split
      · rename_i h
        simp [ih, h]
      · rename_i h
        simp only [reduceCtorEq, List.cons_append, List.cons.injEq, false_iff, not_and]
        intro hc
        exact absurd hc.symm h

/-- The characters before `back`, if the list ends with it. -/
def dropBack (back cs : List Char) : Option (List Char) :=
  (dropFront back.reverse cs.reverse).map List.reverse

/-- Whether `part` occurs in the list. -/
def occursIn (part : List Char) : List Char → Bool
  | [] => part.isEmpty
  | c :: cs => (dropFront part (c :: cs)).isSome || occursIn part cs

/-- The characters before and behind the last occurrence of `part`. -/
def splitLast (part : List Char) : List Char → Option (List Char × List Char)
  | [] => none
  | c :: cs =>
    match splitLast part cs with
    | some (before, behind) => some (c :: before, behind)
    | none => (dropFront part (c :: cs)).map (([], ·))

end BrokerAdmin
