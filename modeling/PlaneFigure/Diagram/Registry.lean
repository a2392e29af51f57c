import PlaneFigure.Geometry.Shape
import PlaneFigure.Table
import PlaneFigure.Term.Basic

/-!
# The objects of a diagram

Objects are told apart by their keys, the texts their terms are displayed as, and not by the
terms behind them. A registry lists the objects of one diagram in the order in which their
keys first occurred. Registering a key again changes nothing, whatever term or kind it comes
with, so an object keeps the kind and the term of its first occurrence.

Objects are found through an index that leads from a key to a place in the list. That the index
leads to the objects with the keys, and to all of them, is part of the type, so reading the list
at a place that the index gives needs no check. It also means that no two objects have the same
key.
-/

namespace PlaneFigure

/-- An object of a diagram. -/
structure Entity where
  kind : Kind
  key : String
  /-- The term that the key was first displayed for. -/
  backing : Term
  /-- How many objects were registered before. -/
  order : Nat
deriving DecidableEq

/-- The objects of a diagram in the order of their registration. -/
structure Registry where
  /-- Where the object with a key stands. -/
  index : Table String Nat
  entities : List Entity
  /-- The index leads from a key to a place exactly if the object there has the key. -/
  indexed : ∀ key place, index.get? key = some place ↔ (entities.map Entity.key)[place]? = some key
deriving DecidableEq

namespace Registry

/-- The registry without objects. -/
def empty : Registry := ⟨.empty, [], by simp [Table.get?_empty]⟩

/-- How many objects there are. -/
def size (registry : Registry) : Nat := registry.entities.length

/-- Whether there are no objects. -/
def isEmpty (registry : Registry) : Bool := registry.entities.isEmpty

/-- The keys in the order of registration. -/
def keys (registry : Registry) : List String := registry.entities.map (·.key)

/-- The index leads to places in the list. -/
theorem lt_length_of_index (registry : Registry) (key : String) (place : Nat)
    (found : registry.index.get? key = some place) : place < registry.entities.length := by
  obtain ⟨bound, _⟩ := List.getElem?_eq_some_iff.mp ((registry.indexed key place).mp found)
  rwa [List.length_map] at bound

/-- The object with a key. -/
def get? (registry : Registry) (key : String) : Option Entity :=
  match found : registry.index.get? key with
  | some place =>
    some (registry.entities.get ⟨place, registry.lt_length_of_index key place found⟩)
  | none => none

/-- Whether a key is registered. -/
def contains (registry : Registry) (key : String) : Bool := (registry.index.get? key).isSome

/-- The object with a key stands at the place that the index gives. -/
theorem get?_eq (registry : Registry) (key : String) :
    registry.get? key = (registry.index.get? key).bind (registry.entities[·]?) := by
  unfold get?
  split
  · rename_i place found
    simp only [found, Option.bind_some, List.get_eq_getElem,
      List.getElem?_eq_getElem (registry.lt_length_of_index key place found)]
  · rename_i missing
    rw [missing]
    rfl

/-- The object with a key is the registered one that has it. -/
theorem get?_eq_some_iff (registry : Registry) (key : String) (entity : Entity) :
    registry.get? key = some entity ↔ entity ∈ registry.entities ∧ entity.key = key := by
  rw [get?_eq, Option.bind_eq_some_iff]
  constructor
  · rintro ⟨place, found, stands⟩
    have atPlace := (registry.indexed key place).mp found
    rw [List.getElem?_map, stands] at atPlace
    exact ⟨List.mem_of_getElem? stands, Option.some.inj atPlace⟩
  · rintro ⟨member, rfl⟩
    obtain ⟨place, stands⟩ := List.mem_iff_getElem?.mp member
    refine ⟨place, (registry.indexed entity.key place).mpr ?_, stands⟩
    rw [List.getElem?_map, stands]
    rfl

/-- A key leads to no place exactly if it leads to no object. -/
theorem get?_index_eq_none_iff (registry : Registry) (key : String) :
    registry.index.get? key = none ↔ registry.get? key = none := by
  unfold get?
  split <;> simp [*]

/-- A key is registered exactly if there is an object with it. -/
theorem mem_keys_iff (registry : Registry) (key : String) :
    key ∈ registry.keys ↔ ∃ entity, registry.get? key = some entity := by
  simp only [get?_eq_some_iff, keys, List.mem_map]

/-- There is no object with a key exactly if the key is not registered. -/
theorem get?_eq_none_iff (registry : Registry) (key : String) :
    registry.get? key = none ↔ key ∉ registry.keys := by
  rw [mem_keys_iff, Option.eq_none_iff_forall_ne_some, not_exists]

/-- A registry contains the keys of its objects. -/
theorem contains_eq (registry : Registry) (key : String) :
    registry.contains key = registry.keys.contains key := by
  have found := (registry.get?_index_eq_none_iff key).trans (registry.get?_eq_none_iff key)
  rw [Bool.eq_iff_iff, contains, Option.isSome_iff_ne_none, List.contains_iff_mem, ne_eq, found,
    Classical.not_not]

/-- An item behind others stands at the place that is their number. -/
theorem getElem?_append_singleton_eq_some_iff {α : Type} (items : List α) (last item : α)
    (place : Nat) :
    (items ++ [last])[place]? = some item ↔
      items[place]? = some item ∨ place = items.length ∧ last = item := by
  rw [List.getElem?_append]
  rcases Nat.lt_trichotomy place items.length with inside | rfl | outside
  · simp [inside, Nat.ne_of_lt inside]
  · simp
  · have behind : ∃ rest, place - items.length = rest + 1 := ⟨place - items.length - 1, by omega⟩
    obtain ⟨rest, distance⟩ := behind
    simp [Nat.not_lt_of_gt outside, Nat.ne_of_gt outside, distance]

/-- With a new key the index leads to the object that is put behind the others. -/
theorem indexed_append (registry : Registry) (entity : Entity)
    (unknown : registry.index.get? entity.key = none) (key : String) (place : Nat) :
    (registry.index.insert entity.key registry.size).get? key = some place ↔
      ((registry.entities ++ [entity]).map Entity.key)[place]? = some key := by
  rw [Table.get?_insert, List.map_append, List.map_singleton,
    getElem?_append_singleton_eq_some_iff, List.length_map, ← registry.indexed]
  by_cases same : key = entity.key
  · subst same
    simp [unknown, size, eq_comm]
  · simp [same, Ne.symm same]

/-- One more object, whose key is new, at the end of the list. -/
def append (registry : Registry) (entity : Entity)
    (unknown : registry.index.get? entity.key = none) : Registry where
  index := registry.index.insert entity.key registry.size
  entities := registry.entities ++ [entity]
  indexed := registry.indexed_append entity unknown

/-- What became of a key that was to be registered. -/
structure Registration where
  /-- The object that has the key now. -/
  entity : Entity
  /-- Whether the key is new. -/
  isNew : Bool
  /-- The registry afterwards. -/
  registry : Registry

/-- Register a key with the term it stands for and the kind of the object. -/
def register (registry : Registry) (key : String) (backing : Term) (kind : Kind) :
    Registration :=
  match found : registry.index.get? key with
  | some place =>
    ⟨registry.entities.get ⟨place, registry.lt_length_of_index key place found⟩, false, registry⟩
  | none =>
    let after := registry.append ⟨kind, key, backing, registry.size⟩ found
    have last : registry.size < after.entities.length := by simp [after, append, size]
    ⟨after.entities.get ⟨registry.size, last⟩, true, after⟩

/-- Registering a known key leaves the registry as it is. -/
theorem register_of_get? (registry : Registry) (key : String) (backing : Term) (kind : Kind)
    (entity : Entity) (known : registry.get? key = some entity) :
    registry.register key backing kind = ⟨entity, false, registry⟩ := by
  unfold register
  split
  · rename_i place found
    rw [get?_eq, found, Option.bind_some,
      List.getElem?_eq_getElem (registry.lt_length_of_index key place found)] at known
    rw [List.get_eq_getElem, Option.some.inj known]
  · rename_i missing
    rw [(registry.get?_index_eq_none_iff key).mp missing] at known
    cases known

/-- Registering a new key puts its object behind the others. -/
theorem register_of_get?_eq_none (registry : Registry) (key : String) (backing : Term)
    (kind : Kind) (unknown : registry.get? key = none) :
    registry.register key backing kind =
      ⟨⟨kind, key, backing, registry.size⟩, true,
        registry.append ⟨kind, key, backing, registry.size⟩
          ((registry.get?_index_eq_none_iff key).mpr unknown)⟩ := by
  unfold register
  split
  · rename_i place found
    rw [(registry.get?_index_eq_none_iff key).mpr unknown] at found
    cases found
  · simp [append, size]

/-- One more object is found under its key, and every other key leads where it led. -/
theorem get?_append (registry : Registry) (entity : Entity)
    (unknown : registry.index.get? entity.key = none) (key : String) :
    (registry.append entity unknown).get? key =
      if key = entity.key then some entity else registry.get? key := by
  rw [get?_eq, append, Table.get?_insert]
  by_cases same : key = entity.key
  · rw [if_pos same, if_pos same, Option.bind_some]
    exact List.getElem?_concat_length
  · rw [if_neg same, if_neg same, get?_eq]
    apply Option.bind_congr
    intro place found
    exact List.getElem?_append_left (registry.lt_length_of_index key place found)

end Registry

end PlaneFigure
