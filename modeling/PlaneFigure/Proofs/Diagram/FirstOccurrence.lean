import Mathlib.Data.List.Basic
import Mathlib.Data.List.Induction

/-!
# First occurrences

The items of a list are identified by keys. An item is a newcomer when its key is none of
the keys that were there before, and no earlier item of the list has it. This is said by
position, for the whole list at once; nothing is remembered from one item to the next.

That newcomers can be found by a single pass which remembers the keys it has met is a
conclusion. A list in two parts contributes the newcomers of the first part, and then those
of the second with the keys of the first part added to the earlier ones. Only the set of
earlier keys matters, neither their order nor their repetition.
-/

namespace PlaneFigure

universe u v w
variable {α : Type u} {β : Type v} {κ : Type w} [DecidableEq κ]

/-- The items whose key is none of the earlier keys and belongs to no item at an earlier
position, in order. -/
def newcomers (key : α → κ) (earlier : List κ) (items : List α) : List α :=
  items.zipIdx.filterMap fun (item, position) =>
    if key item ∈ earlier ∨ key item ∈ (items.take position).map key then none else some item

/-- An empty list has no newcomers. -/
theorem newcomers_nil (key : α → κ) (earlier : List κ) : newcomers key earlier [] = [] := rfl

/-- What comes first decides for itself and counts as earlier for what comes second.
Positions in the first part look at the first part only. A position in the second part looks
at the whole first part and at the second part up to itself, which is the same as having the
keys of the first part among the earlier ones. -/
theorem newcomers_append (key : α → κ) (earlier : List κ) (first second : List α) :
    newcomers key earlier (first ++ second) =
      newcomers key earlier first ++ newcomers key (earlier ++ first.map key) second := by
  have inFirst : ∀ placed ∈ first.zipIdx,
      (if key placed.1 ∈ earlier ∨ key placed.1 ∈ ((first ++ second).take placed.2).map key
        then none else some placed.1) =
      (if key placed.1 ∈ earlier ∨ key placed.1 ∈ (first.take placed.2).map key
        then none else some placed.1) := by
    intro placed member
    have before : placed.2 ≤ first.length := by
      have bound := List.snd_lt_of_mem_zipIdx member
      omega
    rw [List.take_append_of_le_length before]
  have inSecond : ∀ placed ∈ second.zipIdx,
      (if key placed.1 ∈ earlier ∨
          key placed.1 ∈ ((first ++ second).take (first.length + placed.2)).map key
        then none else some placed.1) =
      (if key placed.1 ∈ earlier ++ first.map key ∨
          key placed.1 ∈ (second.take placed.2).map key
        then none else some placed.1) := by
    intro placed _
    rw [List.take_length_add_append]
    simp only [List.map_append, List.mem_append, or_assoc]
  unfold newcomers
  rw [List.zipIdx_append, List.filterMap_append, List.filterMap_congr inFirst, Nat.zero_add,
    List.zipIdx_eq_map_add (i := first.length), List.filterMap_map]
  exact congrArg (_ ++ ·) (List.filterMap_congr inSecond)

/-- One item is a newcomer exactly when its key is none of the earlier ones. -/
theorem newcomers_singleton (key : α → κ) (earlier : List κ) (item : α) :
    newcomers key earlier [item] = if key item ∈ earlier then [] else [item] := by
  by_cases known : key item ∈ earlier <;> simp [newcomers, known]

/-- Finding newcomers by a single pass: the first item is decided by the earlier keys, and its
key is added to them for the rest. -/
theorem newcomers_cons (key : α → κ) (earlier : List κ) (item : α) (rest : List α) :
    newcomers key earlier (item :: rest) =
      (if key item ∈ earlier then [] else [item]) ++
        newcomers key (earlier ++ [key item]) rest := by
  rw [← List.singleton_append, newcomers_append, newcomers_singleton]
  rfl

/-- The earlier keys matter as a set. -/
theorem newcomers_congr (key : α → κ) (earlier other : List κ) (items : List α)
    (same : ∀ value, value ∈ earlier ↔ value ∈ other) :
    newcomers key earlier items = newcomers key other items := by
  unfold newcomers
  simp only [same]

/-- More earlier keys take away the newcomers that have them, and nothing else. -/
theorem newcomers_append_earlier (key : α → κ) (earlier more : List κ) (items : List α) :
    newcomers key (earlier ++ more) items =
      (newcomers key earlier items).filter fun item => key item ∉ more := by
  induction items generalizing earlier with
  | nil => rfl
  | cons item rest inductionHypothesis =>
    have reordered : ∀ value, value ∈ earlier ++ more ++ [key item] ↔
        value ∈ earlier ++ [key item] ++ more := by
      intro value
      simp only [List.mem_append, or_assoc, or_comm]
    rw [newcomers_cons, newcomers_cons, newcomers_congr key _ _ rest reordered,
      inductionHypothesis, List.filter_append]
    by_cases known : key item ∈ earlier
    · simp [known]
    · by_cases added : key item ∈ more <;> simp [known, added]

/-- Changing the items without changing their keys changes the newcomers alike. -/
theorem newcomers_map (key : β → κ) (earlier : List κ) (change : α → β) (items : List α) :
    newcomers key earlier (items.map change) =
      (newcomers (fun item => key (change item)) earlier items).map change := by
  induction items generalizing earlier with
  | nil => rfl
  | cons item rest inductionHypothesis =>
    rw [List.map_cons, newcomers_cons, newcomers_cons, inductionHypothesis, List.map_append]
    by_cases known : key (change item) ∈ earlier <;> simp [known]

/-- Newcomers are items, in their order. -/
theorem newcomers_sublist (key : α → κ) (earlier : List κ) (items : List α) :
    (newcomers key earlier items).Sublist items := by
  induction items generalizing earlier with
  | nil => exact .slnil
  | cons item rest inductionHypothesis =>
    rw [newcomers_cons]
    by_cases known : key item ∈ earlier
    · rw [if_pos known, List.nil_append]
      exact (inductionHypothesis _).cons item
    · rw [if_neg known, List.singleton_append]
      exact (inductionHypothesis _).cons_cons item

/-- The keys of newcomers are the keys of items that were not there before. -/
theorem mem_keys_newcomers (key : α → κ) (earlier : List κ) (items : List α) (value : κ) :
    value ∈ (newcomers key earlier items).map key ↔
      value ∈ items.map key ∧ value ∉ earlier := by
  induction items generalizing earlier with
  | nil => simp [newcomers]
  | cons item rest inductionHypothesis =>
    rw [newcomers_cons, List.map_append, List.mem_append, inductionHypothesis]
    by_cases known : key item ∈ earlier
    · simp only [known, if_true, List.map_nil, List.not_mem_nil, false_or, List.map_cons,
        List.mem_cons, List.mem_append, not_or]
      grind
    · simp only [known, if_false, List.map_cons, List.map_nil, List.mem_cons, List.mem_append,
        List.not_mem_nil, or_false, not_or]
      grind

/-- A newcomer is the first item that has its key, and the key was not there before. -/
theorem mem_newcomers_iff (key : α → κ) (earlier : List κ) (items : List α) (item : α) :
    item ∈ newcomers key earlier items ↔
      key item ∉ earlier ∧ items.find? (fun other => key other = key item) = some item := by
  induction items generalizing earlier with
  | nil => simp [newcomers]
  | cons first rest inductionHypothesis =>
    rw [newcomers_cons, List.mem_append, inductionHypothesis]
    by_cases same : key first = key item
    · by_cases known : key item ∈ earlier <;> simp [same, known, eq_comm]
    · have different : item ≠ first := fun equal => same (congrArg key equal.symm)
      by_cases known : key first ∈ earlier <;> simp [same, Ne.symm same, different, known]

/-- No two newcomers have the same key. -/
theorem newcomers_keys_nodup (key : α → κ) (earlier : List κ) (items : List α) :
    ((newcomers key earlier items).map key).Nodup := by
  induction items generalizing earlier with
  | nil => exact List.nodup_nil
  | cons item rest inductionHypothesis =>
    rw [newcomers_cons]
    by_cases known : key item ∈ earlier
    · simpa [known] using inductionHypothesis (earlier ++ [key item])
    · have absent : key item ∉ (newcomers key (earlier ++ [key item]) rest).map key := by
        rw [mem_keys_newcomers]
        simp
      simpa [known] using ⟨by simpa using absent, inductionHypothesis (earlier ++ [key item])⟩

/-- The keys of all newcomers are the different keys, in the order in which they occur first. -/
theorem map_newcomers_eq_eraseDups (key : α → κ) (items : List α) :
    (newcomers key [] items).map key = (items.map key).eraseDups := by
  have remaining (value : κ) (keys : List κ) :
      ([value].removeAll keys).eraseDups = if value ∈ keys then [] else [value] := by
    have single : [value].eraseDups = [value] := rfl
    by_cases known : value ∈ keys <;> simp [List.removeAll, known, single]
  induction items using List.reverseRecOn with
  | nil => rfl
  | append_singleton before item inductionHypothesis =>
    rw [newcomers_append, newcomers_singleton, List.map_append, inductionHypothesis,
      List.nil_append, List.map_append, List.map_singleton, List.eraseDups_append, remaining]
    by_cases known : key item ∈ before.map key
    · rw [if_pos known, if_pos known, List.map_nil]
    · rw [if_neg known, if_neg known, List.map_singleton]

end PlaneFigure
