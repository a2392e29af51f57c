import PlaneFigure.Drawing.Renderer
import PlaneFigure.Goal.Selection

/-!
# Serving diagrams of goals

A service answers requests for the diagram of a goal. The goal is looked up first; of its
hypotheses those with a selected location are left out; the others are synthesized into a
diagram; and the diagram, if there is one, is rendered. The first stage that fails decides the
answer, and later stages are not consulted. A goal without facts to draw has an empty answer.

Where goals come from, how terms are displayed, what renders, and the settings are parameters
of a service. Unless a renderer is given, the component that the settings name at the time of
the request renders.
-/

namespace PlaneFigure

open Term (Printer Undisplayable)

/-- A request for the diagram of a goal. -/
structure Request where
  context : ContextRef
  goal : GoalId
  locations : List Location
deriving DecidableEq

/-- The answer to a request; without markup there is nothing to draw. -/
structure Response where
  markup : Option Markup

/-- Why a request fails. -/
inductive ServiceError where
  | goalNotFound (goal : GoalId) (context : ContextRef)
  | unknownMethod (name : String)
  | invalidParams (fault : Json.DecodeError)
  /-- The answer cannot be written as JSON. Answers of a service always can, but the answer of a
  client from elsewhere may be such a failure. -/
  | unencodable (reason : String)
  | undisplayable (failure : Undisplayable)
  | renderFailed (failure : RenderFailure)

namespace ServiceError

/-- The account of a failed request that is shown to users. -/
def message : ServiceError → String
  | goalNotFound goal context => "goal " ++ goal.text ++ " not found in context " ++ context.text
  | unknownMethod name => "unknown RPC method: " ++ name
  | invalidParams fault => "invalid params: " ++ fault.message
  | unencodable reason => "failed to encode response: " ++ reason
  | undisplayable failure => failure.message
  | renderFailed failure => failure.message

/-- The accounts of what caused the failure. A failed renderer is reported in place of the
request, with its own causes. -/
def causes : ServiceError → List String
  | renderFailed failure => failure.causes
  | _ => []

end ServiceError

/-- Something that answers requests. -/
abbrev Client := Request → Except ServiceError Response

/-- A service with its parameters. -/
structure Service where
  goal? : ContextRef → GoalId → Option Goal
  printer : Printer
  renderer : Option Renderer
  settings : Settings

namespace Service

/-- The service for given goals, with the plain display, the standard settings and no
renderer of its own. -/
def new (goal? : ContextRef → GoalId → Option Goal) : Service where
  goal? := goal?
  printer := Term.plain
  renderer := none
  settings := .standard

/-- A new value for one parameter. -/
inductive Adjustment where
  | printer (printer : Printer)
  | renderer (renderer : Renderer)
  | settings (settings : Settings)

/-- Make one adjustment. -/
def adjust (service : Service) : Adjustment → Service
  | .printer printer => { service with printer }
  | .renderer renderer => { service with renderer := some renderer }
  | .settings settings => { service with settings }

/-- Make adjustments one after the other. -/
def adjustAll (service : Service) (adjustments : List Adjustment) : Service :=
  adjustments.foldl adjust service

/-- The renderer in use. -/
def activeRenderer (service : Service) : Renderer :=
  service.renderer.getD (.ofSettings service.settings)

/-- The diagram that a request asks for, or none if there are no facts to draw. -/
def synthesize (service : Service) (request : Request) : Except ServiceError (Option Diagram) :=
  match service.goal? request.context request.goal with
  | none => .error (.goalNotFound request.goal request.context)
  | some goal =>
    (PlaneFigure.synthesize service.printer (visible goal.hypotheses request.locations)).mapError
      .undisplayable

/-- Answer a request. -/
def handle (service : Service) : Client := fun request =>
  match service.synthesize request with
  | .error fault => .error fault
  | .ok none => .ok ⟨none⟩
  | .ok (some diagram) =>
    match service.activeRenderer (.ofDiagram diagram service.settings) with
    | .error failure => .error (.renderFailed failure)
    | .ok markup => .ok ⟨some markup⟩

end Service

end PlaneFigure
