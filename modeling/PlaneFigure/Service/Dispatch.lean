import PlaneFigure.Service.Basic
import PlaneFigure.Wire.Service

/-!
# Dispatching requests by name

The user interface calls a service by the name of a method, with parameters in wire form. There
is one method. Its parameters are decoded before the service does anything, and its answer is
returned in wire form.
-/

namespace PlaneFigure.Service

/-- The name of the method that answers requests. -/
def method : String := "getEuclideanGoal"

/-- Call a method by name. -/
def dispatch (service : Service) (name : String) (params : Json) : Except ServiceError Json :=
  if name = method then
    match Wire.decode params with
    | .error fault => .error (.invalidParams fault)
    | .ok request => Wire.encode <$> service.handle request
  else .error (.unknownMethod name)

end PlaneFigure.Service
