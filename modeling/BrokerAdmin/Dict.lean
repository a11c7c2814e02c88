/-!
# Dictionaries

Message properties, connector settings and load-report leftovers are finite maps from text to some
type. They carry no order, so a map is kept as its entries sorted by key, each key once: two
dictionaries that answer every look-up alike are then equal, and printing one has a single result.

## Main definitions

* `Dict α`: a finite map from text to `α`.
* `Dict.get?`, `Dict.insert`, `Dict.overlay`, `Dict.ofList`.
-/

namespace BrokerAdmin

/-- A finite map from text to `α`, as entries sorted by key. -/
structure Dict (α : Type) where
  /-- The entries, sorted by key. -/
  entries : List (String × α)
  /-- Keys strictly increase. -/
  sorted : entries.Pairwise (fun a b => a.1 < b.1)

namespace Dict

variable {α : Type}

theorem ext {d e : Dict α} (h : d.entries = e.entries) : d = e := by
  cases d
  cases e
  cases h
  rfl

instance [DecidableEq α] : DecidableEq (Dict α) := fun d e =>
  if h : d.entries = e.entries then isTrue (ext h)
  else isFalse fun he => h (congrArg entries he)

/-- The map without entries. -/
def empty : Dict α := ⟨[], .nil⟩

instance : EmptyCollection (Dict α) := ⟨empty⟩

instance : Inhabited (Dict α) := ⟨empty⟩

/-- Put `key ↦ value` into sorted entries, in place of what `key` had. -/
def insertEntry (key : String) (value : α) : List (String × α) → List (String × α)
  | [] => [(key, value)]
  | entry :: rest =>
    if key < entry.1 then (key, value) :: entry :: rest
    else if key = entry.1 then (key, value) :: rest
    else entry :: insertEntry key value rest

theorem mem_insertEntry {key : String} {value : α} {x : String × α} :
    ∀ {entries : List (String × α)}, x ∈ insertEntry key value entries →
      x = (key, value) ∨ x ∈ entries
  | [], h => by simpa [insertEntry] using h
  | entry :: rest, h => by
    unfold insertEntry at h
    split at h
    · simpa using h
    · split at h
      · rcases List.mem_cons.1 h with h | h
        · exact .inl h
        · exact .inr (List.mem_cons_of_mem _ h)
      · rcases List.mem_cons.1 h with h | h
        · exact .inr (by simp [h])
        · rcases mem_insertEntry h with h | h
          · exact .inl h
          · exact .inr (List.mem_cons_of_mem _ h)

theorem sorted_insertEntry {key : String} {value : α} :
    ∀ {entries : List (String × α)}, entries.Pairwise (fun a b => a.1 < b.1) →
      (insertEntry key value entries).Pairwise (fun a b => a.1 < b.1)
  | [], _ => by simp [insertEntry]
  | entry :: rest, h => by
    have hhead : ∀ x ∈ rest, entry.1 < x.1 := fun x hx => List.rel_of_pairwise_cons h hx
    have htail := List.Pairwise.of_cons h
    unfold insertEntry
    split
    · rename_i hlt
      refine List.pairwise_cons.2 ⟨?_, h⟩
      intro x hx
      rcases List.mem_cons.1 hx with rfl | hx
      · exact hlt
      · exact String.lt_trans hlt (hhead x hx)
    · split
      · rename_i heq
        refine List.pairwise_cons.2 ⟨?_, htail⟩
        intro x hx
        exact heq ▸ hhead x hx
      · rename_i hnlt hne
        refine List.pairwise_cons.2 ⟨?_, sorted_insertEntry htail⟩
        intro x hx
        rcases mem_insertEntry hx with rfl | hx
        · rcases String.le_total key entry.1 with hle | hle
          · exact absurd (String.le_antisymm hle (String.not_lt.1 hnlt)) hne
          · exact Decidable.byContradiction fun hge =>
              hne (String.le_antisymm (String.not_lt.1 hge) hle)
        · exact hhead x hx

/-- The map with `key ↦ value`, whatever `key` had before. -/
def insert (d : Dict α) (key : String) (value : α) : Dict α :=
  ⟨insertEntry key value d.entries, sorted_insertEntry d.sorted⟩

/-- The value of `key`. -/
def get? (d : Dict α) (key : String) : Option α :=
  (d.entries.find? (·.1 = key)).map (·.2)

/-- The map with all the pairs put in, in order: a later pair wins over an earlier one and over what
was there. -/
def overlay (d : Dict α) (pairs : List (String × α)) : Dict α :=
  pairs.foldl (fun d p => d.insert p.1 p.2) d

/-- The map of these pairs; of several with one key the last counts. -/
def ofList (pairs : List (String × α)) : Dict α := empty.overlay pairs

/-- The entries in the order of their keys. -/
def toList (d : Dict α) : List (String × α) := d.entries

end Dict

end BrokerAdmin
