import PlaneFigure.Geometry.Shape

/-!
# Facts

A fact is one instance of a geometric predicate. Its operands may be anything: terms while
a hypothesis is being recognised, the keys of objects once it is part of a program.
Operations on the operands keep the shape and the order of the operands.
-/

namespace PlaneFigure

universe u v

/-- One instance of a predicate, with operands of any type. -/
inductive Fact (α : Type u) where
  | between (start middle finish : α)
  | onLine (point line : α)
  | onCircle (point circle : α)
  | centerCircle (point circle : α)
deriving DecidableEq

namespace Fact

variable {α : Type u} {β : Type u}

/-- The predicate that the fact is an instance of. -/
def shape : Fact α → Shape
  | between .. => .between
  | onLine .. => .onLine
  | onCircle .. => .onCircle
  | centerCircle .. => .centerCircle

/-- The operands in order. -/
def operands : Fact α → List α
  | between start middle finish => [start, middle, finish]
  | onLine point line => [point, line]
  | onCircle point circle => [point, circle]
  | centerCircle point circle => [point, circle]

/-- The operands in order, each with the kind that the signature gives its position. -/
def typedOperands (fact : Fact α) : List (Kind × α) := fact.shape.signature.zip fact.operands

/-- The fact of a shape with given operands, if their number is right. -/
def ofOperands? : Shape → List α → Option (Fact α)
  | .between, [start, middle, finish] => some (between start middle finish)
  | .onLine, [point, line] => some (onLine point line)
  | .onCircle, [point, circle] => some (onCircle point circle)
  | .centerCircle, [point, circle] => some (centerCircle point circle)
  | _, _ => none

/-- Replace every operand. -/
def map (change : α → β) : Fact α → Fact β
  | between start middle finish => between (change start) (change middle) (change finish)
  | onLine point line => onLine (change point) (change line)
  | onCircle point circle => onCircle (change point) (change circle)
  | centerCircle point circle => centerCircle (change point) (change circle)

/-- Replace every operand with an effect, from the first operand to the last. With a failing
effect nothing is done after the first failure. -/
def mapM {m : Type u → Type v} [Monad m] (change : α → m β) : Fact α → m (Fact β)
  | between start middle finish => do
    return between (← change start) (← change middle) (← change finish)
  | onLine point line => do return onLine (← change point) (← change line)
  | onCircle point circle => do return onCircle (← change point) (← change circle)
  | centerCircle point circle => do return centerCircle (← change point) (← change circle)

/-- The text of a fact: the predicate applied to its operands. -/
def text (fact : Fact String) : String :=
  fact.shape.name ++ "(" ++ ", ".intercalate fact.operands ++ ")"

/-- A fact has as many operands as its shape says. -/
theorem length_operands (fact : Fact α) : fact.operands.length = fact.shape.arity := by
  cases fact <;> rfl

/-- The fact of a shape with given operands has that shape and those operands. -/
theorem ofOperands?_eq_some_iff (shape : Shape) (operands : List α) (fact : Fact α) :
    ofOperands? shape operands = some fact ↔
      fact.shape = shape ∧ fact.operands = operands := by
  constructor
  · intro found
    unfold ofOperands? at found
    split at found <;> simp at found <;> subst found <;> simp [Fact.shape, Fact.operands]
  · rintro ⟨rfl, rfl⟩
    cases fact <;> rfl

end Fact

end PlaneFigure
