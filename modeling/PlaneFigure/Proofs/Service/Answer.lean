import PlaneFigure.Proofs.Diagram.Rearrangement
import PlaneFigure.Service.Basic

/-!
# What a request is answered

Five things can become of a request. The goal is not found; an operand of one of its facts is not
displayed; there are no facts to draw; or the drawing is handed to the renderer, which answers with
markup or fails. Each of these is decided by a condition on the goal, the display and the
renderer, and the conditions are stated here without the stages that a request passes through.
They exclude each other, and together they leave nothing out.

Only hypotheses that the request does not hide matter once the goal is found. A hypothesis with an
operand that is not displayed does no harm while it is hidden, and a renderer that always fails
does none while there is nothing to draw.
-/

namespace PlaneFigure

open Term (Undisplayable)

/-- The hypotheses of a goal that no location of a request names. -/
def Request.spared (request : Request) (goal : Goal) : List Hypothesis :=
  goal.hypotheses.filter fun hypothesis => Unnamed request.locations hypothesis.id

/-- The label of an object, which shows its key as code. -/
def Label.ofObject (object : Kind × String) : Label where
  key := object.2
  kind := object.1
  markup :=
    (Markup.element "code" [] [.text object.2]).withAttribute "className" (.string "font-code")

/-- The drawing of a sequence of facts: the lines that they contribute behind the header, and a
label for every key that occurs. -/
def Drawing.ofFacts (facts : List (Fact String)) (settings : Settings) : Drawing where
  program := Program.text ⟨.autoLabel :: factLines [] facts⟩
  domainSchema := settings.domainSchema
  styleSheet := settings.styleSheet
  labels := (newcomers Prod.snd [] (facts.flatMap Fact.typedOperands)).map Label.ofObject
  maxOptSteps := settings.maxOptSteps

/-- The drawing of a diagram is determined by its facts and the settings. -/
theorem Drawing.ofDiagram_drawn (printer : Term.Printer) (hypotheses : List Hypothesis)
    (settings : Settings) :
    Drawing.ofDiagram (drawn printer hypotheses) settings =
      Drawing.ofFacts (keyed printer (stated hypotheses)) settings := by
  have program : (drawn printer hypotheses).program =
      ⟨.autoLabel :: factLines [] (keyed printer (stated hypotheses))⟩ :=
    congrArg Program.mk (drawn_lines printer hypotheses)
  have labels : (drawn printer hypotheses).registry.entities.map Entity.label =
      (newcomers Prod.snd [] ((keyed printer (stated hypotheses)).flatMap
        Fact.typedOperands)).map Label.ofObject := by
    rw [← drawn_declared, (InStep.drawn printer hypotheses).declared, Registry.objects,
      List.map_map]
    rfl
  rw [ofDiagram, ofFacts, program, labels]

namespace Service

section Stages

variable (service : Service) (request : Request)

/-- A goal that is not found is reported, whatever is hidden. -/
theorem handle_of_missing (missing : service.goal? request.context request.goal = none) :
    service.handle request = .error (.goalNotFound request.goal request.context) := by
  rw [handle, synthesize, missing]

variable (goal : Goal) (found : service.goal? request.context request.goal = some goal)

include found

/-- If the goal is found, the hypotheses that are spared are synthesized. -/
theorem synthesize_of_found :
    service.synthesize request =
      (PlaneFigure.synthesize service.printer (request.spared goal)).mapError
        .undisplayable := by
  have sparing : visible goal.hypotheses request.locations = request.spared goal :=
    visible_eq_filter goal.hypotheses request.locations
  unfold synthesize
  simp only [found, sparing]

/-- The first operand that is not displayed is reported. -/
theorem handle_of_failsFirst (failure : Undisplayable)
    (fails : FailsFirst service.printer (operandsOf (request.spared goal)) failure) :
    service.handle request = .error (.undisplayable failure) := by
  rw [← synthesize_eq_error_iff_failsFirst] at fails
  rw [handle, service.synthesize_of_found request goal found, fails]
  rfl

/-- Hypotheses that state nothing have an empty answer. -/
theorem handle_of_silent (silent : stated (request.spared goal) = []) :
    service.handle request = .ok ⟨none⟩ := by
  have succeeds := (synthesize_eq_none_iff service.printer (request.spared goal)).mpr silent
  rw [handle, service.synthesize_of_found request goal found, succeeds]
  rfl

/-- The answer is that of the renderer if there are facts to draw and nothing fails. -/
theorem handle_of_displays (displays : Displays service.printer (stated (request.spared goal)))
    (speaks : stated (request.spared goal) ≠ []) :
    service.handle request =
      match service.activeRenderer
        (.ofFacts (keyed service.printer (stated (request.spared goal))) service.settings) with
      | .error failure => .error (.renderFailed failure)
      | .ok markup => .ok ⟨some markup⟩ := by
  have inhabited : (drawn service.printer (request.spared goal)).program.factCount ≠ 0 := by
    rw [Program.factCount_eq, drawn_facts]
    simpa [keyed] using speaks
  have succeeds := synthesize_eq_some_drawn service.printer _ displays inhabited
  rw [handle, service.synthesize_of_found request goal found, succeeds, ← Drawing.ofDiagram_drawn]
  rfl

end Stages

/-- What becomes of a request, with the condition for it. -/
inductive Answered (service : Service) (request : Request) :
    Except ServiceError Response → Prop where
  | missing (missing : service.goal? request.context request.goal = none) :
      Answered service request (.error (.goalNotFound request.goal request.context))
  | undisplayable (goal : Goal) (found : service.goal? request.context request.goal = some goal)
      (failure : Undisplayable)
      (fails : FailsFirst service.printer (operandsOf (request.spared goal)) failure) :
      Answered service request (.error (.undisplayable failure))
  | nothing (goal : Goal) (found : service.goal? request.context request.goal = some goal)
      (silent : stated (request.spared goal) = []) :
      Answered service request (.ok ⟨none⟩)
  | rendered (goal : Goal) (found : service.goal? request.context request.goal = some goal)
      (displays : Displays service.printer (stated (request.spared goal)))
      (speaks : stated (request.spared goal) ≠ []) (markup : Markup)
      (renders : service.activeRenderer
        (.ofFacts (keyed service.printer (stated (request.spared goal))) service.settings) =
          .ok markup) :
      Answered service request (.ok ⟨some markup⟩)
  | renderFailed (goal : Goal) (found : service.goal? request.context request.goal = some goal)
      (displays : Displays service.printer (stated (request.spared goal)))
      (speaks : stated (request.spared goal) ≠ []) (failure : RenderFailure)
      (fails : service.activeRenderer
        (.ofFacts (keyed service.printer (stated (request.spared goal))) service.settings) =
          .error failure) :
      Answered service request (.error (.renderFailed failure))

/-- One of these things becomes of every request. -/
theorem answered_handle (service : Service) (request : Request) :
    Answered service request (service.handle request) := by
  cases found : service.goal? request.context request.goal with
  | none =>
    rw [service.handle_of_missing request found]
    exact .missing found
  | some goal =>
    cases outcome : PlaneFigure.synthesize service.printer (request.spared goal) with
    | error failure =>
      have fails := (synthesize_eq_error_iff_failsFirst _ _ _).mp outcome
      rw [service.handle_of_failsFirst request goal found failure fails]
      exact .undisplayable goal found failure fails
    | ok result =>
      have displays := (synthesize_succeeds_iff _ _).mp ⟨result, outcome⟩
      by_cases silent : stated (request.spared goal) = []
      · rw [service.handle_of_silent request goal found silent]
        exact .nothing goal found silent
      · rw [service.handle_of_displays request goal found displays silent]
        cases rendering : service.activeRenderer (.ofFacts _ service.settings) with
        | error failure => exact .renderFailed goal found displays silent failure rendering
        | ok markup => exact .rendered goal found displays silent markup rendering

/-- Nothing else becomes of a request: the conditions exclude each other. -/
theorem handle_eq_iff (service : Service) (request : Request)
    (answer : Except ServiceError Response) :
    service.handle request = answer ↔ Answered service request answer := by
  constructor
  · rintro rfl
    exact service.answered_handle request
  · intro answered
    cases answered with
    | missing missing => exact service.handle_of_missing request missing
    | undisplayable goal found failure fails =>
      exact service.handle_of_failsFirst request goal found failure fails
    | nothing goal found silent => exact service.handle_of_silent request goal found silent
    | rendered goal found displays speaks markup renders =>
      rw [service.handle_of_displays request goal found displays speaks, renders]
    | renderFailed goal found displays speaks failure fails =>
      rw [service.handle_of_displays request goal found displays speaks, fails]

section Outcomes

variable (service : Service) (request : Request)

/-- A goal is reported to be missing exactly if it is, and it is the one that the request names. -/
theorem handle_eq_goalNotFound_iff (goal : GoalId) (context : ContextRef) :
    service.handle request = .error (.goalNotFound goal context) ↔
      service.goal? request.context request.goal = none ∧
        goal = request.goal ∧ context = request.context := by
  rw [handle_eq_iff]
  constructor
  · intro answered
    cases answered with
    | missing missing => exact ⟨missing, rfl, rfl⟩
  · rintro ⟨missing, rfl, rfl⟩
    exact .missing missing

/-- A failure of the display is reported exactly if it is the first one. -/
theorem handle_eq_undisplayable_iff (failure : Undisplayable) :
    service.handle request = .error (.undisplayable failure) ↔
      ∃ goal, service.goal? request.context request.goal = some goal ∧
        FailsFirst service.printer (operandsOf (request.spared goal)) failure := by
  rw [handle_eq_iff]
  constructor
  · intro answered
    cases answered with
    | undisplayable goal found _ fails => exact ⟨goal, found, fails⟩
  · rintro ⟨goal, found, fails⟩
    exact .undisplayable goal found failure fails

/-- The answer is empty exactly if nothing is stated. -/
theorem handle_eq_nothing_iff :
    service.handle request = .ok ⟨none⟩ ↔
      ∃ goal, service.goal? request.context request.goal = some goal ∧
        stated (request.spared goal) = [] := by
  rw [handle_eq_iff]
  constructor
  · intro answered
    cases answered with
    | nothing goal found silent => exact ⟨goal, found, silent⟩
  · rintro ⟨goal, found, silent⟩
    exact .nothing goal found silent

/-- The answer has markup exactly if there is something to draw and the renderer returns it. -/
theorem handle_eq_rendered_iff (markup : Markup) :
    service.handle request = .ok ⟨some markup⟩ ↔
      ∃ goal, service.goal? request.context request.goal = some goal ∧
        Displays service.printer (stated (request.spared goal)) ∧
        stated (request.spared goal) ≠ [] ∧
        service.activeRenderer
          (.ofFacts (keyed service.printer (stated (request.spared goal))) service.settings) =
            .ok markup := by
  rw [handle_eq_iff]
  constructor
  · intro answered
    cases answered with
    | rendered goal found displays speaks _ renders =>
      exact ⟨goal, found, displays, speaks, renders⟩
  · rintro ⟨goal, found, displays, speaks, renders⟩
    exact .rendered goal found displays speaks markup renders

/-- A failure of the renderer is reported exactly if there is something to draw and it fails so. -/
theorem handle_eq_renderFailed_iff (failure : RenderFailure) :
    service.handle request = .error (.renderFailed failure) ↔
      ∃ goal, service.goal? request.context request.goal = some goal ∧
        Displays service.printer (stated (request.spared goal)) ∧
        stated (request.spared goal) ≠ [] ∧
        service.activeRenderer
          (.ofFacts (keyed service.printer (stated (request.spared goal))) service.settings) =
            .error failure := by
  rw [handle_eq_iff]
  constructor
  · intro answered
    cases answered with
    | renderFailed goal found displays speaks _ fails =>
      exact ⟨goal, found, displays, speaks, fails⟩
  · rintro ⟨goal, found, displays, speaks, fails⟩
    exact .renderFailed goal found displays speaks failure fails

end Outcomes

end Service

/-- The hypotheses that a request spares state nothing exactly if no hypothesis that it does not
hide states a fact. -/
theorem Request.stated_spared_eq_nil_iff (request : Request) (goal : Goal) :
    stated (request.spared goal) = [] ↔
      ∀ hypothesis ∈ goal.hypotheses, Unnamed request.locations hypothesis.id →
        hypothesis.type.facts = [] := by
  simp only [stated, spared, List.flatMap_eq_nil_iff, List.mem_filter, decide_eq_true_eq, and_imp]

/-- A display fails first on the operands of the spared hypotheses, with some failure, exactly if
it fails on an operand of a hypothesis that is not hidden. -/
theorem Request.exists_failsFirst_iff (request : Request) (goal : Goal) (printer : Term.Printer) :
    (∃ failure, FailsFirst printer (operandsOf (request.spared goal)) failure) ↔
      ∃ hypothesis ∈ goal.hypotheses, Unnamed request.locations hypothesis.id ∧
        ∃ fact ∈ hypothesis.type.facts, ∃ operand ∈ fact.operands,
          ∃ failure, printer operand = .error failure := by
  simp only [← synthesize_eq_error_iff_failsFirst, synthesize_fails_iff, spared, List.mem_filter,
    decide_eq_true_eq, and_assoc]

/-- A request is answered in one of five ways. It is reported that the goal is not found exactly if
it is not, whatever the request hides. Otherwise the failure of the display on the first operand
of the hypotheses that are not hidden is reported, if it fails on one; this happens exactly if some
hypothesis that is not hidden states a fact with an operand on which the display fails. Otherwise
the answer is empty exactly if no hypothesis that is not hidden states a fact, and this does not
depend on the renderer. Otherwise the answer or the failure is that of the renderer on the drawing
of the facts of the hypotheses that are not hidden. No other failure is reported. -/
theorem Service.handle_outcomes (service : Service) (request : Request) :
    (∀ goal context, service.handle request = .error (.goalNotFound goal context) ↔
      service.goal? request.context request.goal = none ∧
        goal = request.goal ∧ context = request.context) ∧
    (∀ failure, service.handle request = .error (.undisplayable failure) ↔
      ∃ goal, service.goal? request.context request.goal = some goal ∧
        FailsFirst service.printer (operandsOf (request.spared goal)) failure) ∧
    ((∃ failure, service.handle request = .error (.undisplayable failure)) ↔
      ∃ goal, service.goal? request.context request.goal = some goal ∧
        ∃ hypothesis ∈ goal.hypotheses, Unnamed request.locations hypothesis.id ∧
          ∃ fact ∈ hypothesis.type.facts, ∃ operand ∈ fact.operands,
            ∃ failure, service.printer operand = .error failure) ∧
    (∀ renderer, ({ service with renderer } : Service).handle request = .ok ⟨none⟩ ↔
      ∃ goal, service.goal? request.context request.goal = some goal ∧
        ∀ hypothesis ∈ goal.hypotheses, Unnamed request.locations hypothesis.id →
          hypothesis.type.facts = []) ∧
    (∀ markup, service.handle request = .ok ⟨some markup⟩ ↔
      ∃ goal, service.goal? request.context request.goal = some goal ∧
        Displays service.printer (stated (request.spared goal)) ∧
        stated (request.spared goal) ≠ [] ∧
        service.activeRenderer
          (.ofFacts (keyed service.printer (stated (request.spared goal))) service.settings) =
            .ok markup) ∧
    (∀ failure, service.handle request = .error (.renderFailed failure) ↔
      ∃ goal, service.goal? request.context request.goal = some goal ∧
        Displays service.printer (stated (request.spared goal)) ∧
        stated (request.spared goal) ≠ [] ∧
        service.activeRenderer
          (.ofFacts (keyed service.printer (stated (request.spared goal))) service.settings) =
            .error failure) ∧
    (∀ name, service.handle request ≠ .error (.unknownMethod name)) ∧
    ∀ fault, service.handle request ≠ .error (.invalidParams fault) := by
  refine ⟨service.handle_eq_goalNotFound_iff request, service.handle_eq_undisplayable_iff request,
    ?_, ?_, service.handle_eq_rendered_iff request, service.handle_eq_renderFailed_iff request,
    ?_, ?_⟩
  · simp only [handle_eq_undisplayable_iff, ← request.exists_failsFirst_iff]
    exact exists_comm.trans (exists_congr fun _ => exists_and_left)
  · intro renderer
    simp only [handle_eq_nothing_iff, request.stated_spared_eq_nil_iff]
  · intro name answered
    cases (handle_eq_iff _ _ _).mp answered
  · intro fault answered
    cases (handle_eq_iff _ _ _).mp answered

/-- An operand that is not displayed does no harm in a hidden hypothesis, nor does a renderer that
fails when there is nothing to draw. -/
example :
    ((Service.new fun _ _ => some ⟨⟨"g"⟩,
        [⟨⟨"h"⟩, "h", .apply "OnLine" [.var "x", .var "L"]⟩], none⟩).adjustAll
      [.printer (Term.refusing "x"), .renderer (.failing "down")]).handle
        ⟨⟨"c"⟩, ⟨"g"⟩, [.hypothesis ⟨"h"⟩]⟩ = .ok ⟨none⟩ :=
  rfl

end PlaneFigure
