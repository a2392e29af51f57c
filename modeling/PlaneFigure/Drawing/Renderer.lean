import PlaneFigure.Drawing.Basic
import PlaneFigure.Wire.Markup

/-!
# Renderers

A renderer turns a drawing into markup or fails. The usual one leaves the work to a component
of the user interface, which it hands the drawing as properties; it never fails. Besides it
there are one that describes the drawing in words, and one that always fails.
-/

namespace PlaneFigure

/-- Why a renderer fails. -/
inductive RenderFailure where
  /-- The drawing cannot be written as JSON. No renderer here fails for this reason, since texts
  and numbers always can, but a renderer from elsewhere may. -/
  | unencodable (reason : String)
  /-- What is drawn with has failed. -/
  | backend (reason : String)
deriving DecidableEq

namespace RenderFailure

/-- The account of a failed renderer that is shown to users. -/
def message : RenderFailure → String
  | unencodable reason => "failed to encode diagram props: " ++ reason
  | backend reason => "renderer failed: " ++ reason

/-- The accounts of what caused the failure. -/
def causes : RenderFailure → List String
  | unencodable reason => [reason]
  | backend _ => []

end RenderFailure

/-- A way to turn drawings into markup. -/
abbrev Renderer := Drawing → Except RenderFailure Markup

/-- What a component is given of a drawing, members sorted by key. -/
def Drawing.properties (drawing : Drawing) : Json := .object
  [("dsl", .string drawing.domainSchema),
    ("embeds", .array (drawing.labels.map fun label =>
      .array [.string label.key, label.markup.toJson])),
    ("maxOptSteps", .number (.integer drawing.maxOptSteps.toNat)),
    ("sty", .string drawing.styleSheet),
    ("sub", .string drawing.program)]

namespace Renderer

/-- The renderer that leaves the work to a component. -/
def component (name : String) : Renderer := fun drawing =>
  .ok (.component name drawing.properties)

/-- The component that settings name. -/
def ofSettings (settings : Settings) : Renderer := component settings.component

/-- The renderer that states the budget of steps and lists the labels. -/
def caption : Renderer := fun drawing =>
  .ok (.text (toString drawing.maxOptSteps.toNat ++ " steps: " ++
    ", ".intercalate (drawing.labels.map fun label =>
      label.kind.name ++ " " ++ label.markup.textContent)))

/-- The renderer that always fails. -/
def failing (reason : String) : Renderer := fun _ => .error (.backend reason)

end Renderer

end PlaneFigure
