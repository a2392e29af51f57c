import PlaneFigure.Geometry.Fact
import PlaneFigure.Term.Basic

/-!
# Recognising facts in the types of hypotheses

A term states a fact exactly when its head is the constant of a predicate and it has as many
arguments as the predicate has operands. Over- and under-applied predicates state nothing,
and neither do terms with any other head. The operands are not inspected.
-/

namespace PlaneFigure.Term

/-- The fact of a given shape that a term states. -/
def factOf? (shape : Shape) (term : Term) : Option (Fact Term) :=
  if term.headConst? = some shape.name ∧ term.arity = shape.arity then
    Fact.ofOperands? shape term.args
  else none

/-- The facts that a term states, in the order in which shapes are checked. -/
def facts (term : Term) : List (Fact Term) := Shape.all.filterMap term.factOf?

end PlaneFigure.Term
