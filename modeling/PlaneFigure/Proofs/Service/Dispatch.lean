import PlaneFigure.Proofs.Wire.RoundTrip
import PlaneFigure.Service.Dispatch

/-!
# Calling a service by name

Whoever has a service at hand may ask it directly; whoever has not calls it by the name of its
method, with a request in wire form, and gets an answer in wire form. Nothing is lost on the
way: the call fails as the service does, and otherwise its result is decoded to the answer of
the service. It does not matter whether the members of the request have been sorted, and
sorting those of the result only puts the JSON inside the answer into canonical form.

What precedes the service does not depend on it. Parameters that are no request are refused,
and so is every other name, whatever comes with it.
-/

namespace PlaneFigure.Service

/-- Parameters that are decoded to a request are answered by the service. -/
theorem dispatch_of_decode (service : Service) (params : Json) (request : Request)
    (decodes : Wire.decode params = .ok request) :
    service.dispatch method params = Wire.encode <$> service.handle request := by
  rw [dispatch, if_pos rfl, decodes]

/-- Parameters that are not decoded are refused. -/
theorem dispatch_of_fault (service : Service) (params : Json) (fault : Json.DecodeError)
    (fails : (Wire.decode params : Except _ Request) = .error fault) :
    service.dispatch method params = .error (.invalidParams fault) := by
  rw [dispatch, if_pos rfl, fails]

/-- A name that is not that of the method is refused. -/
theorem dispatch_of_ne (service : Service) (name : String) (params : Json)
    (other : name ≠ method) : service.dispatch name params = .error (.unknownMethod name) := by
  rw [dispatch, if_neg other]

/-- The wire form of a request, sorted or not, is answered by the service. -/
theorem dispatch_encode (service : Service) (request : Request) (params : Json)
    (form : params ∈ [Wire.encode request, (Wire.encode request).canonical]) :
    service.dispatch method params = Wire.encode <$> service.handle request := by
  apply dispatch_of_decode
  simp only [List.mem_cons, List.not_mem_nil, or_false] at form
  rcases form with rfl | rfl
  · exact Wire.Lawful.decode_encode request
  · exact Wire.Lawful.decode_canonical request

/-- A call with a request in wire form fails exactly as the service fails on the request, and
otherwise returns the wire form of its answer: the result is decoded to this answer. Parameters
that are not decoded to a request are refused with the fault that was found, and every other
name is refused with any parameters. -/
theorem dispatch_refines_handle (service : Service) :
    (∀ request : Request, ∀ params ∈ [Wire.encode request, (Wire.encode request).canonical],
      (∀ fault, service.handle request = .error fault →
        service.dispatch "getEuclideanGoal" params = .error fault) ∧
      ∀ response, service.handle request = .ok response →
        ∃ result, service.dispatch "getEuclideanGoal" params = .ok result ∧
          Wire.decode result = .ok response ∧
          Wire.decode result.canonical = .ok response.canonical) ∧
    (∀ params fault, (Wire.decode params : Except _ Request) = .error fault →
      service.dispatch "getEuclideanGoal" params = .error (.invalidParams fault)) ∧
    ∀ name params, name ≠ "getEuclideanGoal" →
      service.dispatch name params = .error (.unknownMethod name) := by
  refine ⟨?_, service.dispatch_of_fault, service.dispatch_of_ne⟩
  intro request params form
  have answered := service.dispatch_encode request params form
  constructor
  · intro fault fails
    rw [fails] at answered
    exact answered
  · intro response succeeds
    rw [succeeds] at answered
    exact ⟨Wire.encode response, answered, Response.roundTrips.decode_encode response,
      Response.roundTrips.decode_canonical response⟩

end PlaneFigure.Service
