import PlaneFigure.Diagram.Program
import PlaneFigure.Diagram.Registry
import PlaneFigure.Geometry.Recognition
import PlaneFigure.Goal.Basic
import PlaneFigure.Term.Display

/-!
# From hypotheses to a diagram

Hypotheses are taken one after the other. Each fact that the type of a hypothesis states
first has all its operands displayed; then the operands whose keys are new are registered
and declared from left to right, and the fact is stated. Hypotheses that state no fact
contribute nothing, and a display that fails ends the synthesis without a result.

Registry and program grow together. That they stay in step holds of the diagrams that arise
in this way and is not part of their type.
-/

namespace PlaneFigure

open Term (Printer Undisplayable)

/-- A diagram, finished or in the making: its objects and the program that draws them. -/
structure Diagram where
  registry : Registry
  program : Program
deriving DecidableEq

namespace Diagram

/-- The diagram before any hypothesis: no objects, and the header alone. -/
def blank : Diagram := ⟨.empty, .new⟩

/-- Register an operand, and declare it if its key is new. -/
def introduce (diagram : Diagram) (kind : Kind) (key : String) (backing : Term) : Diagram :=
  let registration := diagram.registry.register key backing kind
  ⟨registration.registry,
    if registration.isNew then diagram.program.declare kind key else diagram.program⟩

/-- Draw a fact whose operands are displayed as those of another fact: introduce its operands,
each with the kind of its position and its key, and state the other fact. -/
def drawAs (diagram : Diagram) (fact : Fact Term) (keyed : Fact String) : Diagram :=
  let introduced := (keyed.typedOperands.zip fact.operands).foldl
    (fun diagram operand => diagram.introduce operand.1.1 operand.1.2 operand.2) diagram
  ⟨introduced.registry, introduced.program.state keyed⟩

/-- Take one more fact into account. All its operands are displayed before it is drawn. -/
def takeFact (printer : Printer) (diagram : Diagram) (fact : Fact Term) :
    Except Undisplayable Diagram :=
  diagram.drawAs fact <$> fact.mapM printer

/-- Take one more hypothesis into account. -/
def step (printer : Printer) (diagram : Diagram) (hypothesis : Hypothesis) :
    Except Undisplayable Diagram :=
  hypothesis.type.facts.foldlM (takeFact printer) diagram

end Diagram

/-- The diagram of some hypotheses, or none if they state no fact. -/
def synthesize (printer : Printer) (hypotheses : List Hypothesis) :
    Except Undisplayable (Option Diagram) := do
  let diagram ← hypotheses.foldlM (Diagram.step printer) .blank
  return if diagram.program.factCount = 0 then none else some diagram

end PlaneFigure
