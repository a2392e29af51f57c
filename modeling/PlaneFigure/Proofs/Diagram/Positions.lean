import PlaneFigure.Proofs.Diagram.ProgramLines

/-!
# Operands keep their positions

The operands of a fact are displayed from the first one to the last, and the fact with the keys is
then paired with its signature and with the terms that the keys were displayed for. Pairing lists
drops what one of them has too many, so it matters that nothing is out of place: the fact with the
keys has the shape of the fact with the terms, its keys stand where the terms stand, and the
signature has a kind for each of them. Every operand is then registered with the kind that the
signature gives its position, the key that it is displayed as, and itself.

That the operands are displayed in order, and that none is displayed behind one that is refused, is
said of any effect that may fail and that has a state: the state can record what was displayed.
-/

namespace PlaneFigure

universe u

open Term (Printer)

/-- A step that does not fail registers the operands of the stated facts in order, each with the
kind of its position and with the key that it is displayed as. -/
theorem Diagram.registry_of_step (printer : Printer) (diagram next : Diagram)
    (hypothesis : Hypothesis) (steps : diagram.step printer hypothesis = .ok next) :
    ∃ introduced : List (Kind × String × Term),
      introduced.map (fun operand => (operand.1, operand.2.2)) =
        hypothesis.type.facts.flatMap Fact.typedOperands ∧
      (∀ operand ∈ introduced, printer operand.2.2 = .ok operand.2.1) ∧
      next.registry = diagram.registry.registerAll introduced := by
  have displays := displays_of_foldlM printer hypothesis.type.facts diagram next steps
  have draws := foldlM_takeFact printer hypothesis.type.facts diagram displays
  obtain rfl := Except.ok.inj (draws.symm.trans steps)
  refine ⟨(hypothesis.type.facts.map (withKeys printer)).flatMap Fact.typedOperands, ?_, ?_,
    foldl_draw_registry diagram _⟩
  · rw [List.map_flatMap, List.flatMap_map]
    apply List.flatMap_congr
    intro fact _
    rw [withKeys, Fact.typedOperands_map, List.map_map]
    exact List.map_id _
  · intro operand member
    obtain ⟨shown, given, typed⟩ := List.mem_flatMap.mp member
    obtain ⟨fact, states, rfl⟩ := List.mem_map.mp given
    rw [withKeys, Fact.typedOperands_map] at typed
    obtain ⟨⟨kind, term⟩, position, rfl⟩ := List.mem_map.mp typed
    exact printer_eq_keyOf printer term
      (displays fact states term (fact.mem_operands_of_typed (kind, term) position))

/-- Replacing the operands of a fact with an effect that may fail and has a state goes through the
operands in order and stops at the first failure. It yields a fact exactly if the effect succeeds
on one operand after the other, and this fact has the same shape and the values for operands; it
fails exactly if the effect fails on an operand after it succeeded on those in front, with that
failure and in the state left by it. Without a state, the operands become their images, or the
first failure among them is the failure. There is a kind for every operand and an operand for every
kind, so pairing them loses nothing, and the kind of an operand is the one at its position. So a
step succeeds if every operand of the stated facts is displayed, and then registers these operands
in order, each with the kind of its position and the key that is displayed for it. -/
theorem operands_keep_positions :
    (∀ (α β ε σ : Type u) (change : α → ExceptT ε (StateM σ) β) (fact : Fact α) (state : σ),
      (∀ result last, runFrom (fact.mapM change) state = (.ok result, last) ↔
        result.shape = fact.shape ∧
          SucceedsThrough change state fact.operands result.operands last) ∧
      (∀ values last, SucceedsThrough change state fact.operands values last →
        ∃ result, result.operands = values ∧
          runFrom (fact.mapM change) state = (.ok result, last)) ∧
      ∀ failure last, runFrom (fact.mapM change) state = (.error failure, last) ↔
        ∃ earlier operand later values reached, fact.operands = earlier ++ operand :: later ∧
          SucceedsThrough change state earlier values reached ∧
          runFrom (change operand) reached = (.error failure, last)) ∧
    (∀ (α β ε : Type) (change : α → Except ε β) (fact : Fact α),
      (∀ result, fact.mapM change = .ok result ↔
        result.shape = fact.shape ∧ fact.operands.map change = result.operands.map .ok) ∧
      ∀ failure, fact.mapM change = .error failure ↔
        FailsFirst change fact.operands failure) ∧
    (∀ (α : Type u) (fact : Fact α),
      fact.typedOperands.length = fact.operands.length ∧
      fact.typedOperands.length = fact.shape.signature.length ∧
      ∀ (position : Nat) kind operand, fact.typedOperands[position]? = some (kind, operand) ↔
        fact.shape.signature[position]? = some kind ∧ fact.operands[position]? = some operand) ∧
    ∀ (printer : Printer) (diagram : Diagram) (hypothesis : Hypothesis),
      ((∃ next, diagram.step printer hypothesis = .ok next) ↔
        Displays printer hypothesis.type.facts) ∧
      ∀ next, diagram.step printer hypothesis = .ok next →
        ∃ introduced : List (Kind × String × Term),
          introduced.map (fun operand => (operand.1, operand.2.2)) =
            hypothesis.type.facts.flatMap Fact.typedOperands ∧
          (∀ operand ∈ introduced, printer operand.2.2 = .ok operand.2.1) ∧
          next.registry = diagram.registry.registerAll introduced := by
  refine ⟨?_, ?_, ?_, ?_⟩
  · intro α β ε σ change fact state
    exact ⟨fact.runFrom_mapM_eq_ok_iff change state, fact.exists_runFrom_mapM change state,
      fact.runFrom_mapM_eq_error_iff change state⟩
  · intro α β ε change fact
    exact ⟨fact.mapM_eq_ok_iff change, fact.mapM_eq_error_iff change⟩
  · intro α fact
    refine ⟨fact.length_typedOperands, ?_, ?_⟩
    · rw [fact.length_typedOperands, fact.length_operands]
      rfl
    · intro position kind operand
      exact List.getElem?_zip_eq_some
  · intro printer diagram hypothesis
    refine ⟨⟨?_, ?_⟩, fun next => diagram.registry_of_step printer next hypothesis⟩
    · rintro ⟨next, steps⟩
      exact displays_of_foldlM printer hypothesis.type.facts diagram next steps
    · intro displays
      exact ⟨_, foldlM_takeFact printer hypothesis.type.facts diagram displays⟩

/-- Record the operand, and then refuse it if it is `b`. -/
def recordUnlessB (operand : String) : ExceptT String (StateM (List String)) String := do
  modify (· ++ [operand])
  if operand = "b" then throw operand else return operand ++ operand

/-- A hypothesis in which a term that is no variable stands for a point. -/
def midpointOnCircle : Hypothesis :=
  ⟨⟨"h"⟩, "h", .apply "OnCircle" [.apply "mid" [.var "a", .var "b"], .var "C"]⟩

/-- Behind the operand that is refused nothing is recorded. In a step the midpoint is registered as
a point, and the key of the circle belongs to the circle. -/
theorem operands_keep_positions_midpoint :
    runFrom (Fact.mapM recordUnlessB (.between "a" "b" "c")) [] = (.error "b", ["a", "b"]) ∧
    ∃ next, Diagram.blank.step Term.plain midpointOnCircle = .ok next ∧
      next.registry.entities =
        [⟨.point, "mid_a_b", .apply "mid" [.var "a", .var "b"], 0⟩,
          ⟨.circle, "C", .var "C", 1⟩] := by
  obtain ⟨stateful, _, _, inSteps⟩ := operands_keep_positions
  constructor
  · obtain ⟨_, _, fails⟩ :=
      stateful String String String (List String) recordUnlessB (.between "a" "b" "c") []
    exact (fails "b" ["a", "b"]).mpr ⟨["a"], "b", ["c"], ["aa"], ["a"], rfl,
      .cons [] "a" "aa" ["a"] [] [] ["a"] rfl (.nil ["a"]), rfl⟩
  · obtain ⟨succeeds, registers⟩ := inSteps Term.plain .blank midpointOnCircle
    obtain ⟨next, steps⟩ := succeeds.mpr (by decide)
    obtain ⟨introduced, positions, keys, registry⟩ := registers next steps
    have typed : midpointOnCircle.type.facts.flatMap Fact.typedOperands =
        [(.point, .apply "mid" [.var "a", .var "b"]), (.circle, .var "C")] := by decide
    obtain ⟨⟨_, point, _⟩, others, rfl, first, behind⟩ :=
      List.map_eq_cons_iff.mp (positions.trans typed)
    obtain ⟨⟨_, circle, _⟩, rest, rfl, second, nothing⟩ := List.map_eq_cons_iff.mp behind
    obtain rfl := List.map_eq_nil_iff.mp nothing
    cases first
    cases second
    obtain rfl : "mid_a_b" = point := Except.ok.inj (keys _ List.mem_cons_self)
    obtain rfl : "C" = circle :=
      Except.ok.inj (keys _ (List.mem_cons_of_mem _ List.mem_cons_self))
    refine ⟨next, steps, ?_⟩
    rw [registry]
    decide

end PlaneFigure
