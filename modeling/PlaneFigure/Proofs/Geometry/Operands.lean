import PlaneFigure.Geometry.Fact
import PlaneFigure.Proofs.Outcome
import PlaneFigure.Proofs.Traversal

/-!
# The operands of facts

Replacing operands keeps the shape of a fact, the order of its operands and the kinds of
their positions. To replace them with an effect is to go through the list of the operands with
the effect, and to make a fact of the same shape of what becomes of them; what holds of lists
holds of facts for this reason, whatever the effect is.
-/

namespace PlaneFigure.Fact

universe u
variable {α β γ : Type u}

/-- The predicate stays. -/
@[simp] theorem shape_map (change : α → β) (fact : Fact α) :
    (fact.map change).shape = fact.shape := by
  cases fact <;> rfl

/-- Operands are replaced where they stand. -/
@[simp] theorem operands_map (change : α → β) (fact : Fact α) :
    (fact.map change).operands = fact.operands.map change := by
  cases fact <;> rfl

/-- Replacing twice is replacing once by the composition. -/
@[simp] theorem map_map (change : α → β) (again : β → γ) (fact : Fact α) :
    (fact.map change).map again = fact.map fun operand => again (change operand) := by
  cases fact <;> rfl

/-- Replacing every operand by itself changes nothing. -/
theorem map_id (fact : Fact α) : (fact.map fun operand => operand) = fact := by
  cases fact <;> rfl

/-- Only what operands are replaced by matters. -/
theorem map_congr (change other : α → β) (fact : Fact α)
    (same : ∀ operand ∈ fact.operands, change operand = other operand) :
    fact.map change = fact.map other := by
  cases fact <;> simpa [map, operands] using same

/-- A replaced operand has the kind of the position at which it stands. -/
theorem typedOperands_map (change : α → β) (fact : Fact α) :
    (fact.map change).typedOperands =
      fact.typedOperands.map fun operand => (operand.1, change operand.2) := by
  unfold typedOperands
  rw [shape_map, operands_map, List.zip_map_right]
  rfl

/-- The signature has a kind for every operand, so no operand is lost. -/
theorem map_snd_typedOperands (fact : Fact α) :
    fact.typedOperands.map Prod.snd = fact.operands := by
  cases fact <;> rfl

/-- The kinds and first halves of pairs, paired with their second halves position by position, are
the pairs with their kinds. No operand is lost, because the signature is as long as the fact. -/
theorem zip_typedOperands_operands (fact : Fact (α × β)) :
    (fact.map Prod.fst).typedOperands.zip (fact.map Prod.snd).operands =
      fact.typedOperands.map fun operand => ((operand.1, operand.2.1), operand.2.2) := by
  rw [typedOperands_map, operands_map, ← map_snd_typedOperands fact, List.map_map, List.zip_map']
  rfl

/-- There is a fact of every shape with operands in the right number. -/
theorem exists_of_length (shape : Shape) (operands : List α)
    (count : operands.length = shape.arity) :
    ∃ fact : Fact α, fact.shape = shape ∧ fact.operands = operands := by
  cases shape with
  | onLine =>
    obtain ⟨point, line, rfl⟩ := List.length_eq_two.mp count
    exact ⟨.onLine point line, rfl, rfl⟩
  | between =>
    obtain ⟨start, middle, finish, rfl⟩ := List.length_eq_three.mp count
    exact ⟨.between start middle finish, rfl, rfl⟩
  | onCircle =>
    obtain ⟨point, circle, rfl⟩ := List.length_eq_two.mp count
    exact ⟨.onCircle point circle, rfl, rfl⟩
  | centerCircle =>
    obtain ⟨point, circle, rfl⟩ := List.length_eq_two.mp count
    exact ⟨.centerCircle point circle, rfl, rfl⟩

/-- An operand with a kind is an operand. -/
theorem mem_operands_of_typed (fact : Fact α) (operand : Kind × α)
    (typed : operand ∈ fact.typedOperands) : operand.2 ∈ fact.operands := by
  rw [← map_snd_typedOperands]
  exact List.mem_map_of_mem typed

/-- An operand with a kind stands at a position to which the signature gives that kind. -/
theorem mem_typedOperands_iff (fact : Fact α) (kind : Kind) (operand : α) :
    (kind, operand) ∈ fact.typedOperands ↔ ∃ position : Nat,
      fact.shape.signature[position]? = some kind ∧ fact.operands[position]? = some operand := by
  simp only [typedOperands, List.mem_iff_getElem?, List.getElem?_zip_eq_some]

/-- There are as many operands with a kind as operands. -/
theorem length_typedOperands (fact : Fact α) :
    fact.typedOperands.length = fact.operands.length := by
  rw [← map_snd_typedOperands, List.length_map]

/-- The signature gives every operand a kind. -/
theorem exists_kind (fact : Fact α) (position : Nat) (operand : α)
    (stands : fact.operands[position]? = some operand) :
    ∃ kind, fact.shape.signature[position]? = some kind := by
  obtain ⟨bound, _⟩ := List.getElem?_eq_some_iff.mp stands
  rw [length_operands, Shape.arity] at bound
  exact ⟨_, List.getElem?_eq_getElem bound⟩

/-- Replacing operands with an effect is going through the list of operands with it, and making a
fact of the same shape of what becomes of them. -/
theorem ofOperands?_mapM {m : Type u → Type u} [Monad m] [LawfulMonad m] (change : α → m β)
    (fact : Fact α) :
    ofOperands? fact.shape <$> fact.operands.mapM change = some <$> fact.mapM change := by
  cases fact <;> simp [shape, operands, mapM, ofOperands?, List.mapM_cons]

/-- If a fact is made of the items of a list, as far as there is one, then there is a fact exactly
if there is a list, the fact has the shape in question, and the items are its operands. -/
theorem eq_ok_iff_of_ofOperands? {ε : Type u} (shape : Shape) (listed : Except ε (List α))
    (made : Except ε (Fact α)) (makes : ofOperands? shape <$> listed = some <$> made)
    (fact : Fact α) :
    made = .ok fact ↔ fact.shape = shape ∧ listed = .ok fact.operands := by
  cases listed with
  | error failure =>
    cases made with
    | error other => simp
    | ok found => cases makes
  | ok items =>
    cases made with
    | error other => cases makes
    | ok found =>
      have result : ofOperands? shape items = some found := Except.ok.inj makes
      rw [Except.ok.injEq, Except.ok.injEq, eq_comm (b := fact.operands),
        ← ofOperands?_eq_some_iff, result, Option.some.injEq]

/-- If a fact is made of the items of a list, as far as there is one, then there is no fact for
the same reason for which there is no list. -/
theorem eq_error_iff_of_ofOperands? {ε : Type u} (shape : Shape) (listed : Except ε (List α))
    (made : Except ε (Fact α)) (makes : ofOperands? shape <$> listed = some <$> made)
    (failure : ε) : made = .error failure ↔ listed = .error failure := by
  cases listed with
  | error reported =>
    cases made with
    | error other =>
      obtain rfl : reported = other := Except.error.inj makes
      simp
    | ok found => cases makes
  | ok items =>
    cases made with
    | error other => cases makes
    | ok found => simp

section Fallible

variable {ε δ ζ : Type} (change : δ → Except ε ζ) (fact : Fact δ)

/-- An effect that may fail yields a fact exactly if it succeeds on every operand. The fact then
keeps its shape and has the values for operands, each where its operand stood. -/
theorem mapM_eq_ok_iff (result : Fact ζ) :
    fact.mapM change = .ok result ↔
      result.shape = fact.shape ∧ fact.operands.map change = result.operands.map .ok := by
  rw [eq_ok_iff_of_ofOperands? fact.shape _ _ (ofOperands?_mapM change fact), mapM_eq_ok_iff_map]

/-- An effect that may fail fails on a fact where it fails first on its operands. -/
theorem mapM_eq_error_iff (failure : ε) :
    fact.mapM change = .error failure ↔ FailsFirst change fact.operands failure := by
  rw [eq_error_iff_of_ofOperands? fact.shape _ _ (ofOperands?_mapM change fact),
    mapM_eq_error_iff_failsFirst]

/-- An effect that succeeds on every operand replaces them all. -/
theorem mapM_eq_ok (value : δ → ζ)
    (succeeds : ∀ operand ∈ fact.operands, change operand = .ok (value operand)) :
    fact.mapM change = .ok (fact.map value) := by
  rw [mapM_eq_ok_iff, shape_map, operands_map, List.map_map]
  exact ⟨rfl, List.map_congr_left succeeds⟩

/-- If an effect that may fail yields a fact, it succeeds on every operand. -/
theorem isOk_of_mapM_eq_ok (result : Fact ζ) (succeeds : fact.mapM change = .ok result) :
    ∀ operand ∈ fact.operands, (change operand).isOk = true := by
  obtain ⟨_, values⟩ := (mapM_eq_ok_iff change fact result).mp succeeds
  intro operand member
  have image : change operand ∈ result.operands.map Except.ok := by
    rw [← values]
    exact List.mem_map_of_mem member
  obtain ⟨value, _, found⟩ := List.mem_map.mp image
  rw [← found]
  rfl

/-- Only what an effect does on the operands matters. -/
theorem mapM_congr (other : δ → Except ε ζ)
    (same : ∀ operand ∈ fact.operands, change operand = other operand) :
    fact.mapM change = fact.mapM other := by
  cases fact <;> simp_all [mapM, operands]

end Fallible

section Stateful

variable {ε σ : Type u} (change : α → ExceptT ε (StateM σ) β) (fact : Fact α) (state : σ)

/-- With a state besides, what becomes of the operands and of the state is what going through their
list leads to. -/
theorem ofOperands?_runFrom_mapM :
    ofOperands? fact.shape <$> (runFrom (fact.operands.mapM change) state).1 =
        some <$> (runFrom (fact.mapM change) state).1 ∧
      (runFrom (fact.operands.mapM change) state).2 = (runFrom (fact.mapM change) state).2 := by
  have same := congrArg (runFrom · state) (ofOperands?_mapM change fact)
  rw [runFrom_map, runFrom_map] at same
  exact Prod.mk.inj same

/-- An effect with a state yields a fact exactly if it succeeds on one operand after the other. The
fact then keeps its shape and has the values for operands. -/
theorem runFrom_mapM_eq_ok_iff (result : Fact β) (last : σ) :
    runFrom (fact.mapM change) state = (.ok result, last) ↔
      result.shape = fact.shape ∧
        SucceedsThrough change state fact.operands result.operands last := by
  obtain ⟨makes, left⟩ := ofOperands?_runFrom_mapM change fact state
  rw [← PlaneFigure.runFrom_mapM_eq_ok_iff, Prod.ext_iff, Prod.ext_iff,
    eq_ok_iff_of_ofOperands? fact.shape _ _ makes, left, and_assoc]

/-- An effect with a state fails on a fact where it fails on an operand, after it succeeded on all
the operands in front. The state is the one that the failing operand leaves. -/
theorem runFrom_mapM_eq_error_iff (failure : ε) (last : σ) :
    runFrom (fact.mapM change) state = (.error failure, last) ↔
      ∃ earlier operand later values reached, fact.operands = earlier ++ operand :: later ∧
        SucceedsThrough change state earlier values reached ∧
        runFrom (change operand) reached = (.error failure, last) := by
  obtain ⟨makes, left⟩ := ofOperands?_runFrom_mapM change fact state
  rw [← PlaneFigure.runFrom_mapM_eq_error_iff, Prod.ext_iff, Prod.ext_iff,
    eq_error_iff_of_ofOperands? fact.shape _ _ makes, left]

/-- An effect with a state that succeeds on one operand after the other yields a fact. -/
theorem exists_runFrom_mapM (values : List β) (last : σ)
    (through : SucceedsThrough change state fact.operands values last) :
    ∃ result, result.operands = values ∧ runFrom (fact.mapM change) state = (.ok result, last) := by
  obtain ⟨result, sameShape, rfl⟩ := exists_of_length fact.shape values
    (through.length_eq.trans fact.length_operands)
  exact ⟨result, rfl, (runFrom_mapM_eq_ok_iff change fact state result last).mpr
    ⟨sameShape, through⟩⟩

end Stateful

end PlaneFigure.Fact
