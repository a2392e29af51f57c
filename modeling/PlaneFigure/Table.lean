/-!
# Tables

A table holds values by key, one for each key that it knows. To insert a value under a known key
is to replace the value that was there; nothing of it is kept, and nothing happens to the values
of other keys.
-/

namespace PlaneFigure

variable {κ ν : Type}

/-- Values by key, no key twice. -/
structure Table (κ ν : Type) where
  entries : List (κ × ν)
  distinct : (entries.map Prod.fst).Nodup
deriving DecidableEq

namespace Table

/-- The table without values. -/
def empty : Table κ ν := ⟨[], .nil⟩

variable [DecidableEq κ]

/-- Put a value in the place of the one that has its key, or else at the end. -/
def put (key : κ) (value : ν) : List (κ × ν) → List (κ × ν)
  | [] => [(key, value)]
  | (other, kept) :: rest =>
    if key = other then (key, value) :: rest else (other, kept) :: put key value rest

/-- The keys after a value was put are those before and its own. -/
theorem mem_keys_put (key : κ) (value : ν) (entries : List (κ × ν)) (sought : κ) :
    sought ∈ (put key value entries).map Prod.fst ↔
      sought = key ∨ sought ∈ entries.map Prod.fst := by
  induction entries with
  | nil => simp [put]
  | cons entry rest inductionHypothesis =>
    rw [put]
    split
    · rename_i same
      simp [same]
    · rw [List.map_cons, List.mem_cons, inductionHypothesis, List.map_cons, List.mem_cons]
      exact or_left_comm

/-- Putting a value repeats no key. -/
theorem distinct_put (key : κ) (value : ν) (entries : List (κ × ν))
    (distinct : (entries.map Prod.fst).Nodup) :
    ((put key value entries).map Prod.fst).Nodup := by
  induction entries with
  | nil => simp [put]
  | cons entry rest inductionHypothesis =>
    obtain ⟨absent, restDistinct⟩ := List.nodup_cons.mp distinct
    rw [put]
    split
    · rename_i same
      exact same ▸ distinct
    · rename_i different
      refine List.nodup_cons.mpr ⟨?_, inductionHypothesis restDistinct⟩
      intro found
      rcases (mem_keys_put key value rest entry.1).mp found with same | later
      · exact different same.symm
      · exact absent later

/-- Insert a value, instead of the one that has its key. -/
def insert (table : Table κ ν) (key : κ) (value : ν) : Table κ ν :=
  ⟨put key value table.entries, distinct_put key value table.entries table.distinct⟩

/-- The value of a key. -/
def get? (table : Table κ ν) (key : κ) : Option ν := table.entries.lookup key

/-- The empty table knows no key. -/
theorem get?_empty (key : κ) : (empty : Table κ ν).get? key = none := rfl

/-- Entries are looked up from the first one on. -/
theorem lookup_cons (entry : κ × ν) (rest : List (κ × ν)) (sought : κ) :
    (entry :: rest).lookup sought =
      if sought = entry.1 then some entry.2 else rest.lookup sought := by
  by_cases same : sought = entry.1
  · rw [if_pos same, same]
    exact List.lookup_cons_self
  · have passed : (sought == entry.1) = false := by simpa using same
    rw [List.lookup_cons, passed, if_neg same]

/-- A value that was put is found under its key, and every other key has the value it had. -/
theorem lookup_put (key : κ) (value : ν) (entries : List (κ × ν)) (sought : κ) :
    (put key value entries).lookup sought =
      if sought = key then some value else entries.lookup sought := by
  induction entries with
  | nil => exact lookup_cons (key, value) [] sought
  | cons entry rest inductionHypothesis =>
    rw [put]
    by_cases replaced : key = entry.1
    · rw [if_pos replaced, lookup_cons, lookup_cons, ← replaced]
      by_cases same : sought = key
      · rw [if_pos same, if_pos same]
      · simp only [if_neg same]
    · rw [if_neg replaced, lookup_cons, lookup_cons, inductionHypothesis]
      by_cases first : sought = entry.1
      · have other : sought ≠ key := fun same => replaced (same.symm.trans first)
        rw [if_pos first, if_neg other, if_pos first]
      · simp only [if_neg first]

/-- A table has under a key what was inserted there last. -/
theorem get?_insert (table : Table κ ν) (key : κ) (value : ν) (sought : κ) :
    (table.insert key value).get? sought = if sought = key then some value else table.get? sought :=
  lookup_put key value table.entries sought

end Table

end PlaneFigure
