import PlaneFigure.Diagram.Registry
import PlaneFigure.Proofs.Diagram.FirstOccurrence

/-!
# Objects in the order of their registration

Operands are registered one after the other, each with the kind of its position, its key and the
term behind the key. The registry that they lead to is determined by where keys occur for the
first time: every first occurrence makes an object, with the kind and the term that the key comes
with there, and the objects stand in this order and are numbered by it. A later occurrence of the
key finds the object and changes nothing, although it may come with another kind or another term.

List and index are changed at different places of the program, yet the index always leads from the
key of an object to the place of the object, and from no other key to any place. This is what the
type of registries carries along; here it follows that looking up a key is the same as searching
the list for it, and that registering a key concerns no object but its own.
-/

namespace PlaneFigure

/-- The object of an operand, a kind with a key and the term that is displayed so. -/
def Entity.ofOperand (operand : Kind × String × Term) (order : Nat) : Entity :=
  ⟨operand.1, operand.2.1, operand.2.2, order⟩

namespace Registry

/-- The operands whose keys are not registered and belong to no earlier operand. -/
def unregistered (registry : Registry) (operands : List (Kind × String × Term)) :
    List (Kind × String × Term) :=
  newcomers (fun operand => operand.2.1) registry.keys operands

/-- Register operands one after the other. -/
def registerAll (registry : Registry) (operands : List (Kind × String × Term)) : Registry :=
  operands.foldl (fun registry operand =>
    (registry.register operand.2.1 operand.2.2 operand.1).registry) registry

/-- Operands in two rows are registered row by row. -/
theorem registerAll_append (registry : Registry) (first second : List (Kind × String × Term)) :
    registry.registerAll (first ++ second) = (registry.registerAll first).registerAll second :=
  List.foldl_append

/-- What registering a key amounts to if some keys were registered before. -/
structure Registers (registry : Registry) (known : List String) (key : String)
    (made : Registration) : Prop where
  /-- The key counts as new exactly if it was not registered before. -/
  isNew : made.isNew = true ↔ key ∉ known
  /-- From now on the key leads to the object that is returned. -/
  entity : made.registry.get? key = some made.entity
  /-- Every other key leads where it led before. -/
  others : ∀ other, other ≠ key → made.registry.get? other = registry.get? other
  /-- The objects that were there stay as they are, and a new one stands behind them. -/
  entities : made.registry.entities =
    registry.entities ++ if made.isNew then [made.entity] else []

/-- Registering a key concerns the object with this key and no other. -/
theorem registers_register (registry : Registry) (key : String) (backing : Term) (kind : Kind) :
    Registers registry registry.keys key (registry.register key backing kind) := by
  cases found : registry.get? key with
  | none =>
    have absent := (registry.get?_eq_none_iff key).mp found
    rw [registry.register_of_get?_eq_none key backing kind found]
    exact {
      isNew := iff_of_true rfl absent
      entity := by rw [get?_append, if_pos rfl]
      others := fun other different => by rw [get?_append, if_neg different]
      entities := rfl }
  | some entity =>
    have known := (registry.mem_keys_iff key).mpr ⟨entity, found⟩
    rw [registry.register_of_get? key backing kind entity found]
    exact {
      isNew := iff_of_false Bool.false_ne_true (not_not_intro known)
      entity := found
      others := fun _ _ => rfl
      entities := (List.append_nil _).symm }

/-- Registering a key puts an object behind the others, unless the key is registered. -/
theorem entities_register (registry : Registry) (key : String) (backing : Term) (kind : Kind) :
    (registry.register key backing kind).registry.entities = registry.entities ++
      if key ∈ registry.keys then [] else [⟨kind, key, backing, registry.size⟩] := by
  cases found : registry.get? key with
  | none =>
    have absent := (registry.get?_eq_none_iff key).mp found
    rw [registry.register_of_get?_eq_none key backing kind found, if_neg absent]
    rfl
  | some entity =>
    have known := (registry.mem_keys_iff key).mpr ⟨entity, found⟩
    rw [registry.register_of_get? key backing kind entity found, if_pos known, List.append_nil]

/-- Of several operands the first one is decided by the registered keys, and the rest by those
that are registered with it. -/
theorem unregistered_cons (registry : Registry) (kind : Kind) (key : String) (backing : Term)
    (rest : List (Kind × String × Term)) :
    registry.unregistered ((kind, key, backing) :: rest) =
      (if key ∈ registry.keys then [] else [(kind, key, backing)]) ++
        (registry.register key backing kind).registry.unregistered rest := by
  have keys : ∀ value, value ∈ registry.keys ++ [key] ↔
      value ∈ (registry.register key backing kind).registry.keys := by
    intro value
    rw [Registry.keys, Registry.keys, entities_register]
    by_cases known : key ∈ registry.keys
    · simp only [if_pos known, List.append_nil, List.mem_append, List.mem_singleton]
      exact ⟨fun either => either.elim id (· ▸ known), .inl⟩
    · simp [if_neg known]
  rw [unregistered, newcomers_cons, newcomers_congr _ _ _ rest keys]
  rfl

/-- Registering operands makes an object of every operand whose key is not registered and belongs
to no earlier operand. The induction follows the operands; the registered keys are those from the
beginning and the keys met so far. -/
theorem entities_registerAll (registry : Registry) (operands : List (Kind × String × Term)) :
    (registry.registerAll operands).entities = registry.entities ++
      ((registry.unregistered operands).zipIdx registry.size).map
        fun placed => Entity.ofOperand placed.1 placed.2 := by
  induction operands generalizing registry with
  | nil => simp [registerAll, unregistered, newcomers_nil]
  | cons operand rest inductionHypothesis =>
    obtain ⟨kind, key, backing⟩ := operand
    have next : registry.registerAll ((kind, key, backing) :: rest) =
        (registry.register key backing kind).registry.registerAll rest := rfl
    rw [next, inductionHypothesis, unregistered_cons, size, entities_register]
    by_cases known : key ∈ registry.keys <;> simp [known, size, Entity.ofOperand]

/-- The keys of objects are the keys of the operands that they were made of. -/
theorem keys_registerAll (registry : Registry) (operands : List (Kind × String × Term)) :
    (registry.registerAll operands).keys = registry.keys ++
      (registry.unregistered operands).map fun operand => operand.2.1 := by
  unfold keys
  rw [entities_registerAll, List.map_append, List.map_map]
  conv_rhs => rw [← List.zipIdx_map_fst registry.size (registry.unregistered operands)]
  rw [List.map_map]
  rfl

/-- The keys after registering operands are those from before and those of the operands. -/
theorem mem_keys_registerAll (registry : Registry) (operands : List (Kind × String × Term))
    (key : String) :
    key ∈ (registry.registerAll operands).keys ↔
      key ∈ registry.keys ++ operands.map fun operand => operand.2.1 := by
  rw [keys_registerAll, List.mem_append, List.mem_append, unregistered, mem_keys_newcomers]
  by_cases known : key ∈ registry.keys <;> simp [known]

/-- Objects that are registered from the beginning are numbered without gaps. -/
theorem orders_registerAll_empty (operands : List (Kind × String × Term)) :
    (empty.registerAll operands).entities.map (·.order) =
      List.range (empty.registerAll operands).size := by
  rw [size, entities_registerAll, List.range_eq_range']
  simp [Entity.ofOperand, empty, size, Function.comp_def]

/-- The index leads to the first object in the list that has the key; there is no other one. -/
theorem get?_eq_find? (registry : Registry) (key : String) :
    registry.get? key = registry.entities.find? fun entity => entity.key = key := by
  cases found : registry.entities.find? fun entity => entity.key = key with
  | none =>
    rw [get?_eq_none_iff]
    simpa [keys] using List.find?_eq_none.mp found
  | some entity =>
    rw [get?_eq_some_iff]
    exact ⟨List.mem_of_find?_eq_some found, by simpa using List.find?_some found⟩

/-- A registry holds the first operands with their keys. -/
structure HoldsFirst (operands : List (Kind × String × Term)) (registry : Registry) : Prop where
  /-- The index gives no place outside of the list. -/
  inside : ∀ key place, registry.index.get? key = some place → place < registry.entities.length
  /-- The index leads to the place of the object with a key, and to no other place. -/
  indexed : ∀ key place, registry.index.get? key = some place ↔
    (registry.entities[place]?).map (·.key) = some key
  /-- The objects are listed in the order in which their keys occur for the first time. -/
  keys : registry.keys = (operands.map fun operand => operand.2.1).eraseDups
  /-- There are as many objects as different keys. -/
  size : registry.size = (operands.map fun operand => operand.2.1).eraseDups.length
  /-- The objects are numbered from zero on. -/
  orders : registry.entities.map (·.order) = List.range registry.size
  /-- An object has the kind and the term of the first operand with its key. -/
  first : ∀ entity ∈ registry.entities, ∃ operand,
    operands.find? (fun operand => operand.2.1 = entity.key) = some operand ∧
      entity.kind = operand.1 ∧ entity.backing = operand.2.2
  /-- Looking up a key is searching the list for it. -/
  get? : ∀ key, registry.get? key = registry.entities.find? fun entity => entity.key = key
  /-- The keys of the objects are contained, and no others. -/
  contains : ∀ key, registry.contains key = registry.keys.contains key

/-- Registering operands one after the other, from the beginning, leads to a registry that holds
the first of them with each key. -/
theorem holdsFirst_registerAll (operands : List (Kind × String × Term)) :
    HoldsFirst operands (empty.registerAll operands) where
  inside := (empty.registerAll operands).lt_length_of_index
  indexed key place := by
    rw [← List.getElem?_map]
    exact (empty.registerAll operands).indexed key place
  keys := by
    rw [keys_registerAll, ← map_newcomers_eq_eraseDups]
    rfl
  size := by
    rw [← map_newcomers_eq_eraseDups, List.length_map, size, entities_registerAll]
    simp [unregistered, empty, keys]
  orders := orders_registerAll_empty operands
  first entity member := by
    rw [entities_registerAll] at member
    rcases List.mem_append.mp member with old | made
    · cases old
    obtain ⟨⟨operand, order⟩, placed, rfl⟩ := List.mem_map.mp made
    have newcomer : operand ∈ empty.unregistered operands := List.fst_mem_of_mem_zipIdx placed
    obtain ⟨_, first⟩ := (mem_newcomers_iff _ _ operands operand).mp newcomer
    exact ⟨operand, first, rfl, rfl⟩
  get? := (empty.registerAll operands).get?_eq_find?
  contains := (empty.registerAll operands).contains_eq

end Registry

/-- Operands are registered one after the other, whatever keys, terms and kinds they have. At every
time the index leads to places in the list and to the objects with the keys; there is one object
for each different key, in the order in which the keys occurred first, numbered from zero on and
with the kind and the term of the first operand with the key; and looking a key up agrees with
searching the list. Registering one more key says whether it is new, returns the object that the
key leads to afterwards, and leaves all other objects as they are. -/
theorem registered_by_first_occurrence (operands : List (Kind × String × Term)) :
    Registry.HoldsFirst operands (Registry.empty.registerAll operands) ∧
    ∀ key backing kind,
      Registry.Registers (Registry.empty.registerAll operands)
        (operands.map fun operand => operand.2.1) key
        ((Registry.empty.registerAll operands).register key backing kind) := by
  refine ⟨Registry.holdsFirst_registerAll operands, ?_⟩
  intro key backing kind
  have registers := (Registry.empty.registerAll operands).registers_register key backing kind
  have keys := Registry.mem_keys_registerAll Registry.empty operands key
  exact { registers with isNew := registers.isNew.trans keys.not }

/-- A key that comes again, with another kind and another term, leaves its object as it is. -/
example : (Registry.empty.registerAll [(.circle, "C", .var "C"), (.point, "a", .var "a"),
    (.point, "C", .const "C"), (.line, "L", .var "L")]).entities =
      [⟨.circle, "C", .var "C", 0⟩, ⟨.point, "a", .var "a", 1⟩, ⟨.line, "L", .var "L", 2⟩] := by
  decide

end PlaneFigure
