/-!
# The geometric vocabulary

Diagrams show three kinds of objects and four predicates about them. A predicate is known
by its name, which is the head constant of the hypotheses that state it, and by its
signature, the kinds of its operands in order.
-/

namespace PlaneFigure

/-- The kinds of objects that a diagram can show. -/
inductive Kind where
  | point
  | line
  | circle
deriving DecidableEq

/-- The name under which a program declares objects of a kind. -/
def Kind.name : Kind → String
  | point => "Point"
  | line => "Line"
  | circle => "Circle"

/-- The predicates that a diagram can show. -/
inductive Shape where
  | onLine
  | between
  | onCircle
  | centerCircle
deriving DecidableEq

namespace Shape

/-- Every shape, in the order in which hypotheses are checked against them. -/
def all : List Shape := [onLine, between, onCircle, centerCircle]

/-- The constant that states the predicate. -/
def name : Shape → String
  | onLine => "OnLine"
  | between => "Between"
  | onCircle => "OnCircle"
  | centerCircle => "CenterCircle"

/-- The kinds of the operands, in order. -/
def signature : Shape → List Kind
  | onLine => [.point, .line]
  | between => [.point, .point, .point]
  | onCircle => [.point, .circle]
  | centerCircle => [.point, .circle]

/-- How many operands the predicate has. -/
def arity (shape : Shape) : Nat := shape.signature.length

/-- No shape is left out. -/
theorem mem_all (shape : Shape) : shape ∈ all := by cases shape <;> decide

/-- A shape is determined by its name. -/
theorem name_injective {left right : Shape} (same : left.name = right.name) : left = right := by
  revert same
  cases left <;> cases right <;> decide

end Shape

end PlaneFigure
