import PlaneFigure.Diagram.Synthesis
import PlaneFigure.Markup
import PlaneFigure.Settings.Basic

/-!
# Drawings

A drawing is what a renderer is given: the text of the program, the settings of the layout
engine, and a label for every object of the diagram in the order of registration. The label
of an object shows its key.
-/

namespace PlaneFigure

/-- The label of an object. -/
structure Label where
  key : String
  kind : Kind
  markup : Markup

/-- The label that shows the key of an object as code. -/
def Entity.label (entity : Entity) : Label where
  key := entity.key
  kind := entity.kind
  markup :=
    (Markup.element "code" [] [.text entity.key]).withAttribute "className" (.string "font-code")

/-- Everything that a renderer needs. -/
structure Drawing where
  program : String
  domainSchema : String
  styleSheet : String
  labels : List Label
  maxOptSteps : UInt32

/-- The drawing of a diagram with given settings. -/
def Drawing.ofDiagram (diagram : Diagram) (settings : Settings) : Drawing where
  program := diagram.program.text
  domainSchema := settings.domainSchema
  styleSheet := settings.styleSheet
  labels := diagram.registry.entities.map Entity.label
  maxOptSteps := settings.maxOptSteps

end PlaneFigure
