import BrokerAdmin.Text

/-!
# Pieces of text

A text is cut at each separator, so pieces that are written with separators between them come back
as long as none of them has a separator of its own.

## Main definitions

* `CutsLast`: the two pieces around the last occurrence.

## Main results

* `splitFields_append`: a text that is cut at one separator, and its two parts further.
* `splitFields_of_notMem`: a text without separator is one piece.
* `notMem_of_mem_splitFields`: no piece has a separator.
* `isSome_dropFront_iff`: a text has a known beginning.
* `occursIn_eq_true_iff`: a text has another one in it.
* `dropBack_eq_some_iff`: a text has a known end.
* `splitLast_eq_some_iff`: a text is cut at the last occurrence of another one.
-/

namespace BrokerAdmin

variable {sep : Char}

/-- **A separator cuts a text** wherever it stands. -/
theorem splitFields_append (sep : Char) (xs ys : List Char) :
    splitFields sep (xs ++ sep :: ys) = splitFields sep xs ++ splitFields sep ys := by
  induction xs with
  | nil =>
    change splitFields sep (sep :: ys) = [] :: splitFields sep ys
    rw [splitFields, if_pos rfl]
  | cons x xs ih =>
    rw [List.cons_append, splitFields, ih, splitFields]
    split
    · rfl
    · cases hfields : splitFields sep xs with
      | nil => exact absurd hfields (splitFields_ne_nil sep xs)
      | cons field fields => rfl

/-- A text without separator is one piece. -/
theorem splitFields_of_notMem {cs : List Char} (h : sep ∉ cs) : splitFields sep cs = [cs] := by
  induction cs with
  | nil => rfl
  | cons c cs ih =>
    obtain ⟨hc, hcs⟩ := not_or.1 (mt List.mem_cons.2 h)
    rw [splitFields, if_neg (Ne.symm hc), ih hcs]

/-- No piece has a separator. -/
theorem notMem_of_mem_splitFields {cs field : List Char} (h : field ∈ splitFields sep cs) :
    sep ∉ field := by
  induction cs generalizing field with
  | nil =>
    rw [splitFields, List.mem_singleton] at h
    simp [h]
  | cons c cs ih =>
    rw [splitFields] at h
    split at h
    · rcases List.mem_cons.1 h with rfl | h
      · simp
      · exact ih h
    · next hc =>
      split at h
      · next hnil => exact absurd hnil (splitFields_ne_nil sep cs)
      · next first fields hfields =>
        rcases List.mem_cons.1 h with rfl | h
        · have hfirst : sep ∉ first := ih (by simp [hfields])
          simp [Ne.symm hc, hfirst]
        · exact ih (by simp [hfields, h])

/-- A text has a beginning exactly when the beginning can be dropped. -/
theorem isSome_dropFront_iff {front cs : List Char} :
    (dropFront front cs).isSome = true ↔ front <+: cs := by
  rw [Option.isSome_iff_exists]
  simp only [dropFront_eq_some_iff]
  exact exists_congr fun rest => eq_comm

/-- Whether a text occurs in another is decided at each of its characters. -/
theorem occursIn_eq_true_iff {part cs : List Char} : occursIn part cs = true ↔ part <:+: cs := by
  induction cs with
  | nil => rw [occursIn, List.isEmpty_iff, List.infix_nil]
  | cons c cs ih => rw [occursIn, Bool.or_eq_true, isSome_dropFront_iff, ih, List.infix_cons_iff]

/-- A text has an end exactly when the end can be dropped, and what stands before it is left. -/
theorem dropBack_eq_some_iff {back cs rest : List Char} :
    dropBack back cs = some rest ↔ cs = rest ++ back := by
  simp only [dropBack, Option.map_eq_some_iff, dropFront_eq_some_iff]
  constructor
  · rintro ⟨front, h, rfl⟩
    rw [← List.reverse_inj, h, List.reverse_append, List.reverse_reverse]
  · rintro rfl
    exact ⟨rest.reverse, List.reverse_append, List.reverse_reverse rest⟩

/-! ### The last occurrence -/

/-- A text is cut at the last place where another one occurs. Occurrences may overlap. -/
structure CutsLast (part cs before behind : List Char) : Prop where
  /-- The other text stands between the two pieces. -/
  eq_append : cs = before ++ part ++ behind
  /-- It does not occur further behind. -/
  last : ∀ before' behind', cs = before' ++ part ++ behind' → before'.length ≤ before.length

theorem CutsLast.unique {part cs before behind before' behind' : List Char}
    (h : CutsLast part cs before behind) (h' : CutsLast part cs before' behind') :
    before = before' ∧ behind = behind' := by
  have hlength : before.length = before'.length :=
    Nat.le_antisymm (h'.last _ _ h.eq_append) (h.last _ _ h'.eq_append)
  have happend : before ++ (part ++ behind) = before' ++ (part ++ behind') := by
    rw [← List.append_assoc, ← List.append_assoc, ← h.eq_append, ← h'.eq_append]
  obtain ⟨hbefore, hrest⟩ := List.append_inj happend hlength
  exact ⟨hbefore, List.append_cancel_left hrest⟩

/-- **A text that ends in a separator** occurs for the last time where no separator follows. -/
theorem cutsLast_of_notMem {stem behind : List Char} (before : List Char) (h : sep ∉ behind) :
    CutsLast (stem ++ [sep]) (before ++ (stem ++ [sep]) ++ behind) before behind := by
  refine ⟨rfl, fun before' behind' heq => ?_⟩
  have happend : (before ++ stem) ++ sep :: behind = (before' ++ stem) ++ sep :: behind' := by
    simpa using heq
  rcases List.append_eq_append_iff.1 happend with ⟨between, hstem, hrest⟩ | ⟨between, hstem, -⟩
  · -- An occurrence further behind would have its separator among what follows.
    cases between with
    | nil =>
      have hlength := congrArg List.length hstem
      simp only [List.length_append, List.length_nil] at hlength
      omega
    | cons c between =>
      obtain ⟨-, hbehind⟩ := List.cons.inj hrest
      exact absurd (by rw [hbehind]; simp) h
  · have hlength := congrArg List.length hstem
    simp only [List.length_append] at hlength
    omega

theorem splitLast_eq_none_iff {part cs : List Char} (hpart : part ≠ []) :
    splitLast part cs = none ↔ ¬ part <:+: cs := by
  induction cs with
  | nil => simp [splitLast, hpart]
  | cons c cs ih =>
    rw [splitLast, List.infix_cons_iff, not_or, ← ih, ← isSome_dropFront_iff]
    cases splitLast part cs <;> simp

theorem cutsLast_of_splitLast {part cs before behind : List Char} (hpart : part ≠ [])
    (h : splitLast part cs = some (before, behind)) : CutsLast part cs before behind := by
  induction cs generalizing before with
  | nil => cases h
  | cons c cs ih =>
    rw [splitLast] at h
    split at h
    · next before behind' hcs =>
      obtain ⟨rfl, rfl⟩ := Prod.mk.inj (Option.some.inj h)
      obtain ⟨rfl, hlast⟩ := ih hcs
      refine ⟨rfl, fun before' behind'' heq => ?_⟩
      cases before' with
      | nil => exact Nat.zero_le _
      | cons c' before' => exact Nat.succ_le_succ (hlast before' behind'' (List.cons.inj heq).2)
    · next hnone =>
      obtain ⟨rest, hfront, heq⟩ := Option.map_eq_some_iff.1 h
      obtain ⟨rfl, rfl⟩ := Prod.mk.inj heq
      refine ⟨dropFront_eq_some_iff.1 hfront, fun before' behind' heq => ?_⟩
      cases before' with
      | nil => exact Nat.le_refl _
      | cons c' before' =>
        have hinfix : part <:+: cs := ⟨before', behind', (List.cons.inj heq).2.symm⟩
        exact absurd hinfix ((splitLast_eq_none_iff hpart).1 hnone)

/-- **A text is cut at the last occurrence of another one**, if there is one. -/
theorem splitLast_eq_some_iff {part cs before behind : List Char} (hpart : part ≠ []) :
    splitLast part cs = some (before, behind) ↔ CutsLast part cs before behind := by
  refine ⟨cutsLast_of_splitLast hpart, fun h => ?_⟩
  have hinfix : part <:+: cs := ⟨before, behind, h.eq_append.symm⟩
  cases hsplit : splitLast part cs with
  | none => exact absurd hinfix ((splitLast_eq_none_iff hpart).1 hsplit)
  | some pieces =>
    obtain ⟨hbefore, hbehind⟩ := (cutsLast_of_splitLast hpart hsplit).unique h
    rw [← hbefore, ← hbehind]

end BrokerAdmin
