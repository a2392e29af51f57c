import Mathlib.Data.List.Induction
import Mathlib.Data.List.Nodup
import Mathlib.Data.String.Basic
import PlaneFigure.Json.Value

/-!
# The members of objects in canonical form

The canonical form of an object has its members sorted by key. Where no key is repeated, sorting
rearranges the members and loses none. Sorted members stay as they are when they are sorted
again, and sorting does not look at values, so the canonical form of a value is its own canonical
form.
-/

namespace PlaneFigure.Json

variable {α β : Type}

/-- Every item is put into canonical form by itself. -/
theorem canonicalItems_eq_map (items : List Json) : canonicalItems items = items.map canonical := by
  induction items with
  | nil => rfl
  | cons item rest inductionHypothesis => rw [canonicalItems, inductionHypothesis, List.map_cons]

/-- Every member keeps its key. -/
theorem canonicalMembers_eq_map (members : List (String × Json)) :
    canonicalMembers members = members.map fun member => (member.1, member.2.canonical) := by
  induction members with
  | nil => rfl
  | cons member rest inductionHypothesis =>
    rw [canonicalMembers, inductionHypothesis, List.map_cons]

/-- A member with a new key takes some place among the others. -/
theorem insertMember_perm (key : String) (value : α) (members : List (String × α))
    (absent : key ∉ members.map Prod.fst) :
    (insertMember key value members).Perm ((key, value) :: members) := by
  induction members with
  | nil => exact .refl _
  | cons member rest inductionHypothesis =>
    obtain ⟨different, later⟩ : key ≠ member.1 ∧ key ∉ rest.map Prod.fst := by simpa using absent
    rw [insertMember]
    split
    · exact .refl _
    · exact ((inductionHypothesis later).cons _).trans (.swap ..)

/-- The last member is inserted among the others, which have been sorted. -/
theorem sortMembers_concat (before : List (String × α)) (member : String × α) :
    sortMembers (before ++ [member]) = insertMember member.1 member.2 (sortMembers before) := by
  simp [sortMembers]

/-- Sorting members without a repeated key rearranges them. -/
theorem sortMembers_perm (members : List (String × α)) (distinct : (members.map Prod.fst).Nodup) :
    (sortMembers members).Perm members := by
  -- The induction takes members from the end, where the last one is inserted.
  induction members using List.reverseRecOn with
  | nil => exact .refl _
  | append_singleton before member inductionHypothesis =>
    rw [List.map_append, List.nodup_append] at distinct
    obtain ⟨beforeDistinct, _, apart⟩ := distinct
    have sorted := inductionHypothesis beforeDistinct
    have absent : member.1 ∉ (sortMembers before).map Prod.fst := by
      intro found
      exact apart member.1 ((sorted.map Prod.fst).subset found) member.1 (by simp) rfl
    rw [sortMembers_concat]
    exact (insertMember_perm _ _ _ absent).trans
      ((sorted.cons member).trans (List.perm_append_singleton member before).symm)

/-- The canonical form of an object has the same keys, and with each of them the canonical form
of the value. -/
theorem canonical_members_perm (members : List (String × Json))
    (distinct : (members.map Prod.fst).Nodup) :
    (sortMembers (canonicalMembers members)).Perm
      (members.map fun member => (member.1, member.2.canonical)) := by
  rw [canonicalMembers_eq_map]
  apply sortMembers_perm
  rw [List.map_map]
  exact distinct

/-- In the canonical form of an object a key has the canonical form of its value. -/
theorem mem_canonical_members (key : String) (value : Json) (members : List (String × Json))
    (distinct : (members.map Prod.fst).Nodup) (member : (key, value) ∈ members) :
    (key, value.canonical) ∈ sortMembers (canonicalMembers members) :=
  (canonical_members_perm members distinct).mem_iff.mpr (List.mem_map.mpr ⟨_, member, rfl⟩)

/-- Where no key is repeated, looking up the key of a member finds it. -/
theorem lookup_of_mem (key : String) (value : α) (members : List (String × α))
    (distinct : (members.map Prod.fst).Nodup) (member : (key, value) ∈ members) :
    members.lookup key = some value := by
  induction members with
  | nil => cases member
  | cons first rest inductionHypothesis =>
    obtain ⟨absent, restDistinct⟩ := List.nodup_cons.mp distinct
    rcases List.mem_cons.mp member with rfl | later
    · simp
    · have different : key ≠ first.1 := by
        intro same
        exact absent (List.mem_map.mpr ⟨_, later, same⟩)
      have passed : (key == first.1) = false := by simpa using different
      rw [List.lookup_cons, passed]
      exact inductionHypothesis restDistinct later

/-- Keys stand in strictly increasing order. -/
def Sorted (members : List (String × α)) : Prop := (members.map Prod.fst).Pairwise (· < ·)

/-- The keys after an insertion are the old ones and the new one. -/
theorem mem_keys_insertMember (key : String) (value : α) (members : List (String × α))
    (sought : String) :
    sought ∈ (insertMember key value members).map Prod.fst ↔
      sought = key ∨ sought ∈ members.map Prod.fst := by
  induction members with
  | nil => simp [insertMember]
  | cons member rest inductionHypothesis =>
    rw [insertMember]
    split
    · simp
    · split
      · rename_i same
        simp [same]
      · rw [List.map_cons, List.mem_cons, inductionHypothesis, List.map_cons, List.mem_cons]
        exact or_left_comm

/-- An insertion keeps members sorted. -/
theorem Sorted.insertMember (key : String) (value : α) (members : List (String × α))
    (sorted : Sorted members) : Sorted (insertMember key value members) := by
  induction members with
  | nil => simp [Json.insertMember, Sorted]
  | cons member rest inductionHypothesis =>
    obtain ⟨least, restSorted⟩ := List.pairwise_cons.mp sorted
    rw [Json.insertMember]
    split
    · rename_i before
      refine List.pairwise_cons.mpr ⟨?_, sorted⟩
      intro other found
      rcases List.mem_cons.mp found with rfl | later
      · exact before
      · exact before.trans (least other later)
    · split
      · rename_i same
        exact same ▸ sorted
      · rename_i notBefore different
        refine List.pairwise_cons.mpr ⟨?_, inductionHypothesis restSorted⟩
        intro other found
        rcases (mem_keys_insertMember key value rest other).mp found with rfl | later
        · exact lt_of_le_of_ne (not_lt.mp notBefore) (Ne.symm different)
        · exact least other later

/-- Sorting sorts. -/
theorem sorted_sortMembers (members : List (String × α)) : Sorted (sortMembers members) := by
  induction members using List.reverseRecOn with
  | nil => exact .nil
  | append_singleton before member inductionHypothesis =>
    rw [sortMembers_concat]
    exact inductionHypothesis.insertMember member.1 member.2

/-- In sorted members no key is repeated. -/
theorem Sorted.distinct (members : List (String × α)) (sorted : Sorted members) :
    (members.map Prod.fst).Nodup :=
  sorted.imp fun before => before.ne

/-- In the canonical form of an object a key is looked up with the canonical form of its value. -/
theorem lookup_canonical_members (key : String) (value : Json) (members : List (String × Json))
    (distinct : (members.map Prod.fst).Nodup) (member : (key, value) ∈ members) :
    (sortMembers (canonicalMembers members)).lookup key = some value.canonical :=
  lookup_of_mem key value.canonical _ (sorted_sortMembers _).distinct
    (mem_canonical_members key value members distinct member)

/-- A member whose key comes after all others is inserted at the end. -/
theorem insertMember_last (key : String) (value : α) (members : List (String × α))
    (last : ∀ other ∈ members.map Prod.fst, other < key) :
    insertMember key value members = members ++ [(key, value)] := by
  induction members with
  | nil => rfl
  | cons member rest inductionHypothesis =>
    obtain ⟨first, later⟩ := List.forall_mem_cons.mp last
    rw [insertMember, if_neg first.asymm, if_neg first.ne', inductionHypothesis later]
    rfl

/-- Sorted members stay as they are. -/
theorem sortMembers_of_sorted (members : List (String × α)) (sorted : Sorted members) :
    sortMembers members = members := by
  induction members using List.reverseRecOn with
  | nil => rfl
  | append_singleton before member inductionHypothesis =>
    unfold Sorted at sorted
    rw [List.map_append, List.pairwise_append] at sorted
    obtain ⟨beforeSorted, _, last⟩ := sorted
    rw [sortMembers_concat, inductionHypothesis beforeSorted]
    exact insertMember_last _ _ _ fun other found => last other found member.1 (by simp)

/-- Insertion does not look at values. -/
theorem insertMember_map (change : α → β) (key : String) (value : α)
    (members : List (String × α)) :
    insertMember key (change value) (members.map fun member => (member.1, change member.2)) =
      (insertMember key value members).map fun member => (member.1, change member.2) := by
  induction members with
  | nil => rfl
  | cons member rest inductionHypothesis =>
    rw [List.map_cons, insertMember, insertMember]
    split
    · rfl
    · split
      · rfl
      · rw [inductionHypothesis, List.map_cons]

/-- Sorting does not look at values. -/
theorem sortMembers_map (change : α → β) (members : List (String × α)) :
    sortMembers (members.map fun member => (member.1, change member.2)) =
      (sortMembers members).map fun member => (member.1, change member.2) := by
  induction members using List.reverseRecOn with
  | nil => rfl
  | append_singleton before member inductionHypothesis =>
    rw [List.map_append, List.map_singleton, sortMembers_concat, inductionHypothesis,
      sortMembers_concat]
    exact insertMember_map change member.1 member.2 (sortMembers before)

mutual

/-- The canonical form of a value is its own canonical form. -/
theorem canonical_canonical : (document : Json) → document.canonical.canonical = document.canonical
  | null => rfl
  | bool _ => rfl
  | number _ => rfl
  | string _ => rfl
  | array items => congrArg array (canonicalItems_canonicalItems items)
  | object members => by
    have values := canonicalMembers_canonicalMembers members
    rw [canonicalMembers_eq_map (canonicalMembers members)] at values
    rw [canonical, canonical, canonicalMembers_eq_map, ← sortMembers_map, values,
      sortMembers_of_sorted _ (sorted_sortMembers _)]

/-- Items in canonical form stay as they are. -/
theorem canonicalItems_canonicalItems :
    (items : List Json) → canonicalItems (canonicalItems items) = canonicalItems items
  | [] => rfl
  | item :: rest => by
    rw [canonicalItems, canonicalItems, canonical_canonical, canonicalItems_canonicalItems]

/-- Members with values in canonical form stay as they are. -/
theorem canonicalMembers_canonicalMembers : (members : List (String × Json)) →
    canonicalMembers (canonicalMembers members) = canonicalMembers members
  | [] => rfl
  | (key, value) :: rest => by
    rw [canonicalMembers, canonicalMembers, canonical_canonical,
      canonicalMembers_canonicalMembers]

end

end PlaneFigure.Json
