import BrokerAdmin.Dict
import Mathlib.Data.List.Pairwise
import Mathlib.Data.List.Sort

/-!
# Looking up in dictionaries

A dictionary is known by what it answers. These lemmas say what the answers are after pairs have been
put in, without the order in which entries are kept.

## Main results

* `Dict.get?_insert`, `Dict.get?_overlay`: the answers after one pair and after many.
* `Dict.ext_get?`: dictionaries that answer alike are the same.
* `Dict.toList_ofList_perm`: pairs with different keys are all kept.
* `Dict.ofList_of_perm_toList`: a dictionary is made up of its entries in any order.
-/

namespace BrokerAdmin.Dict

variable {α : Type}

theorem lookup_cons (key : String) (pair : String × α) (pairs : List (String × α)) :
    (pair :: pairs).lookup key = if key = pair.1 then some pair.2 else pairs.lookup key := by
  rw [List.lookup_cons]
  by_cases h : key = pair.1
  · rw [beq_iff_eq.2 h, if_pos h]
  · rw [beq_eq_false_iff_ne.2 h, if_neg h]

theorem find?_insertEntry (key key' : String) (value : α) (entries : List (String × α)) :
    (insertEntry key value entries).find? (·.1 = key') =
      if key = key' then some (key, value) else entries.find? (·.1 = key') := by
  induction entries with
  | nil => by_cases h : key = key' <;> simp [insertEntry, h]
  | cons entry entries ih =>
    rw [insertEntry]
    split
    · by_cases h : key = key' <;> simp [h]
    · split
      · next heq =>
        subst heq
        by_cases h : entry.1 = key' <;> simp [h]
      · next hne =>
        rw [List.find?_cons, ih, List.find?_cons]
        by_cases h : entry.1 = key'
        · have hkey : key ≠ key' := fun hkey => hne (hkey.trans h.symm)
          simp [h, hkey]
        · simp [h]

/-- The pair that is put in is found, and nothing else changes. -/
theorem get?_insert (d : Dict α) (key key' : String) (value : α) :
    (d.insert key value).get? key' = if key = key' then some value else d.get? key' := by
  rw [get?, insert, find?_insertEntry]
  split <;> rfl

/-- **The last pair with a key wins**, and where there is none, what was there before. -/
theorem get?_overlay (d : Dict α) (pairs : List (String × α)) (key : String) :
    (d.overlay pairs).get? key = (pairs.reverse.lookup key).or (d.get? key) := by
  induction pairs generalizing d with
  | nil => rfl
  | cons pair pairs ih =>
    have hstep : (d.overlay (pair :: pairs)).get? key =
        ((d.insert pair.1 pair.2).overlay pairs).get? key := rfl
    rw [hstep, ih, get?_insert, List.reverse_cons, List.lookup_append, Option.or_assoc]
    by_cases h : pair.1 = key
    · simp [h, lookup_cons]
    · simp [h, lookup_cons, Ne.symm h]

@[simp] theorem get?_ofList (pairs : List (String × α)) (key : String) :
    (ofList pairs).get? key = pairs.reverse.lookup key := by
  rw [ofList, get?_overlay]
  exact Option.or_none

/-- No two entries have one key. -/
theorem eq_of_mem_entries {d : Dict α} {a b : String × α} (ha : a ∈ d.entries) (hb : b ∈ d.entries)
    (h : a.1 = b.1) : a = b := by
  have hsymm : Std.Symm fun a b : String × α => a.1 ≠ b.1 := ⟨fun _ _ hne => hne.symm⟩
  have hpairs : d.entries.Pairwise fun a b => a.1 ≠ b.1 := d.sorted.imp String.ne_of_lt
  by_contra hne
  exact hpairs.forall ha hb hne h

/-- An entry is what its key is answered with. -/
theorem mem_entries_iff {d : Dict α} {key : String} {value : α} :
    (key, value) ∈ d.entries ↔ d.get? key = some value := by
  rw [get?, Option.map_eq_some_iff]
  constructor
  · intro hmem
    cases hfind : d.entries.find? (·.1 = key) with
    | none => simpa using List.find?_eq_none.1 hfind _ hmem
    | some entry =>
      have hkey : entry.1 = key := by simpa using List.find?_some hfind
      have hentry := eq_of_mem_entries (List.mem_of_find?_eq_some hfind) hmem hkey
      exact ⟨entry, rfl, by rw [hentry]⟩
  · rintro ⟨entry, hfind, rfl⟩
    have hkey : entry.1 = key := by simpa using List.find?_some hfind
    exact hkey ▸ List.mem_of_find?_eq_some hfind

/-- **Dictionaries that answer alike are the same.** -/
theorem ext_get? {d e : Dict α} (h : ∀ key, d.get? key = e.get? key) : d = e := by
  refine ext (d.sorted.eq_of_mem_iff e.sorted ?_)
  rintro ⟨key, value⟩
  rw [mem_entries_iff, mem_entries_iff, h key]

/-- What pairs are laid over is known by its answers. -/
theorem eq_overlay_iff {d e : Dict α} {pairs : List (String × α)} :
    e = d.overlay pairs ↔ ∀ key, e.get? key = (pairs.reverse.lookup key).or (d.get? key) := by
  constructor
  · rintro rfl key
    exact get?_overlay d pairs key
  · intro h
    exact ext_get? fun key => by rw [h, get?_overlay]

/-! ### Entries in another order -/

/-- A pair with a new key is put in front of a later one. -/
theorem insertEntry_perm {key : String} {value : α} {entries : List (String × α)}
    (h : key ∉ entries.map Prod.fst) :
    (insertEntry key value entries).Perm ((key, value) :: entries) := by
  induction entries with
  | nil => exact .refl _
  | cons entry entries ih =>
    obtain ⟨hfirst, hothers⟩ := not_or.1 (mt List.mem_cons.2 h)
    rw [insertEntry, if_neg hfirst]
    split
    · exact .refl _
    · exact ((ih hothers).cons entry).trans (List.Perm.swap (key, value) entry entries)

theorem toList_overlay_perm {pairs : List (String × α)} {d : Dict α}
    (h : ((pairs ++ d.toList).map Prod.fst).Nodup) :
    (d.overlay pairs).toList.Perm (pairs ++ d.toList) := by
  induction pairs generalizing d with
  | nil => exact .refl _
  | cons pair pairs ih =>
    -- The first pair goes in behind the others, which only need that its key is new to them.
    have hmiddle : (pairs ++ pair :: d.toList).Perm (pair :: (pairs ++ d.toList)) :=
      List.perm_middle
    have hnodup := (hmiddle.map Prod.fst).nodup_iff.2 h
    have hnew : pair.1 ∉ d.toList.map Prod.fst := by
      rw [List.map_append] at hnodup
      exact (List.nodup_cons.1 (List.nodup_append.1 hnodup).2.1).1
    have hinsert : (pairs ++ (d.insert pair.1 pair.2).toList).Perm (pairs ++ pair :: d.toList) :=
      (insertEntry_perm hnew).append_left pairs
    exact (ih ((hinsert.map Prod.fst).nodup_iff.2 hnodup)).trans (hinsert.trans hmiddle)

/-- **Pairs with different keys** are all kept, in some order. -/
theorem toList_ofList_perm {pairs : List (String × α)} (h : (pairs.map Prod.fst).Nodup) :
    (ofList pairs).toList.Perm pairs := by
  have hempty : pairs ++ (empty : Dict α).toList = pairs := List.append_nil pairs
  have hperm := toList_overlay_perm (d := empty) (by rwa [hempty])
  rwa [hempty] at hperm

/-- What pairs with different keys say is found in them. -/
theorem get?_ofList_eq_some_iff {pairs : List (String × α)} (h : (pairs.map Prod.fst).Nodup)
    {key : String} {value : α} : (ofList pairs).get? key = some value ↔ (key, value) ∈ pairs := by
  rw [← mem_entries_iff]
  exact (toList_ofList_perm h).mem_iff

/-- Pairs are sorted by putting them in. -/
theorem toList_ofList_of_perm {pairs sorted : List (String × α)} (h : pairs.Perm sorted)
    (hsorted : sorted.Pairwise fun a b => a.1 < b.1) : (ofList pairs).toList = sorted := by
  have hnodup : (sorted.map Prod.fst).Nodup := List.pairwise_map.2 (hsorted.imp String.ne_of_lt)
  have hperm := (toList_ofList_perm ((h.map Prod.fst).nodup_iff.2 hnodup)).trans h
  exact (ofList pairs).sorted.eq_of_mem_iff hsorted fun _ => hperm.mem_iff

/-- The entries of a dictionary make it up, whatever their order. -/
theorem ofList_of_perm_toList {pairs : List (String × α)} {d : Dict α} (h : pairs.Perm d.toList) :
    ofList pairs = d :=
  ext (toList_ofList_of_perm h d.sorted)

end BrokerAdmin.Dict
