import PlaneFigure.Proofs.Diagram.Withheld
import PlaneFigure.Proofs.Service.Answer
import PlaneFigure.Proofs.Settings.Layers

/-!
# Adjusted services

The display, the renderer and the settings of a service are adjusted independently of each other.
The last adjustment of each of them counts, wherever the others stand. In particular a renderer
stays if the settings are replaced afterwards, and nothing of settings that have been replaced is
kept: what the usual renderer does is decided when a request is answered, by the settings that
count then.

So the answer to a request is determined by the last words. The diagram, and with it the keys of
its objects, is that of the last display. A renderer that was given draws it with the last
settings; if none was given, the component that the last settings name is handed their fields.
-/

namespace PlaneFigure

open Term (Printer)
open Json (Draft)

/-- The keys of a diagram are the texts that the display yields for the operands of its
hypotheses. -/
theorem mem_keys_of_synthesize (printer : Printer) (hypotheses : List Hypothesis)
    (diagram : Diagram) (succeeds : synthesize printer hypotheses = .ok (some diagram))
    (key : String) :
    key ∈ diagram.registry.keys ↔ ∃ operand ∈ operandsOf hypotheses, printer operand = .ok key := by
  have displays := (synthesize_succeeds_iff printer hypotheses).mp ⟨_, succeeds⟩
  obtain rfl := (result_of_synthesize printer hypotheses _ succeeds).2 diagram rfl
  rw [← Registry.map_snd_objects, ← (InStep.drawn printer hypotheses).declared,
    mem_keys_declared printer hypotheses _ succeeds, drawn_facts, operandsOf_eq]
  simp only [keyed, List.mem_map, List.mem_flatMap, exists_exists_and_eq_and, Fact.operands_map]
  constructor
  · rintro ⟨fact, states, operand, occurs, rfl⟩
    exact ⟨operand, ⟨fact, states, occurs⟩,
      printer_eq_keyOf printer operand (displays fact states operand occurs)⟩
  · rintro ⟨operand, ⟨fact, states, occurs⟩, shown⟩
    exact ⟨fact, states, operand, occurs, by simp [keyOf, shown]⟩

namespace Service

namespace Adjustment

/-- The display that an adjustment sets, if it sets one. -/
def printer? : Adjustment → Option Printer
  | .printer display => some display
  | _ => none

/-- The renderer that an adjustment sets, if it sets one. -/
def renderer? : Adjustment → Option Renderer
  | .renderer custom => some custom
  | _ => none

/-- The settings that an adjustment sets, if it sets any. -/
def settings? : Adjustment → Option Settings
  | .settings replaced => some replaced
  | _ => none

end Adjustment

/-- The settings that count after adjustments of a new service. -/
def lastSettings (adjustments : List Adjustment) : Settings :=
  (lastWord? Adjustment.settings? adjustments).getD .standard

/-- The display that counts after adjustments of a new service. -/
def lastPrinter (adjustments : List Adjustment) : Printer :=
  (lastWord? Adjustment.printer? adjustments).getD Term.plain

/-- Adjustments of a new service have the last words for its parameters. An adjustment sets one
parameter and leaves the other ones as they are. -/
theorem adjustAll_new (goal? : ContextRef → GoalId → Option Goal) (adjustments : List Adjustment) :
    (new goal?).adjustAll adjustments =
      ⟨goal?, lastPrinter adjustments, lastWord? Adjustment.renderer? adjustments,
        lastSettings adjustments⟩ := by
  have goals : ((new goal?).adjustAll adjustments).goal? = goal? :=
    List.foldlRecOn (motive := fun service => service.goal? = goal?) adjustments adjust rfl
      fun _ held adjustment _ => by cases adjustment <;> exact held
  have printer : ((new goal?).adjustAll adjustments).printer = lastPrinter adjustments :=
    view_foldl Service.printer adjust Adjustment.printer?
      (fun _ adjustment => by cases adjustment <;> rfl) adjustments (new goal?)
  have renderer : ((new goal?).adjustAll adjustments).renderer =
      (lastWord? Adjustment.renderer? adjustments).or none :=
    view?_foldl Service.renderer adjust Adjustment.renderer?
      (fun _ adjustment => by cases adjustment <;> rfl) adjustments (new goal?)
  have settings : ((new goal?).adjustAll adjustments).settings = lastSettings adjustments :=
    view_foldl Service.settings adjust Adjustment.settings?
      (fun _ adjustment => by cases adjustment <;> rfl) adjustments (new goal?)
  rw [Option.or_none] at renderer
  rw [← printer, ← renderer, ← settings]
  exact congrArg (Service.mk · _ _ _) goals

/-- The answer of a renderer to a request. -/
def answerOf : Except RenderFailure Markup → Except ServiceError Response
  | .error failure => .error (.renderFailed failure)
  | .ok markup => .ok ⟨some markup⟩

/-- A diagram is answered with what the renderer in use makes of its drawing. -/
theorem handle_of_diagram (service : Service) (request : Request) (diagram : Diagram)
    (succeeds : service.synthesize request = .ok (some diagram)) :
    service.handle request =
      answerOf (service.activeRenderer (.ofDiagram diagram service.settings)) := by
  unfold handle
  rw [succeeds]
  rfl

/-- The diagram of a request is synthesized from the hypotheses of a goal that are spared. -/
theorem synthesize_eq_some (service : Service) (request : Request) (diagram : Diagram)
    (succeeds : service.synthesize request = .ok (some diagram)) :
    ∃ goal, service.goal? request.context request.goal = some goal ∧
      PlaneFigure.synthesize service.printer (request.spared goal) = .ok (some diagram) := by
  cases found : service.goal? request.context request.goal with
  | none => simp [synthesize, found] at succeeds
  | some goal =>
    rw [service.synthesize_of_found request goal found, mapError_eq_ok_iff] at succeeds
    exact ⟨goal, rfl, succeeds⟩

/-- Without a renderer of its own a service answers a diagram with the component that the settings
name. It is handed the program, the labels and the settings. -/
theorem handle_of_component (service : Service) (request : Request) (diagram : Diagram)
    (succeeds : service.synthesize request = .ok (some diagram))
    (usual : service.renderer = none) :
    service.handle request = .ok ⟨some (.component service.settings.component
      (Drawing.ofDiagram diagram service.settings).properties)⟩ := by
  rw [handle_of_diagram service request diagram succeeds, activeRenderer, usual]
  rfl

end Service

/-- Settings come in layers, and what counts reaches the answers. Adjustments of settings put the
last value of each field on top of them; a document that can be loaded puts the fields that it
mentions on top of the standard settings. Of the adjustments of a new service, in any order and
with any repetitions, the last one of its settings determines the settings, and if there is none,
they are the standard ones. Requests with a diagram get the diagram of the last display, the keys
of which are the texts that this display yields for the operands of the facts that are drawn. If a
renderer was given, whenever that was, the last one draws it with the schema, the style and the
budget of the settings that count. If none was given, the answer is the component that these
settings name, and it is handed their schema, style and budget. -/
theorem Service.last_adjustments (goal? : ContextRef → GoalId → Option Goal)
    (adjustments : List Adjustment) :
    (∀ changes, Settings.standard.adjustAll changes =
      (Settings.Layer.ofAdjustments changes).onto .standard) ∧
    (∀ text members, Draft.ofText text = (.ofMembers members, true) → ∀ changes settings,
      (Settings.adjustAll · changes) <$> Settings.ofText text = .ok settings ↔
        ∃ file : Settings.Layer, file.DescribedBy members ∧
          settings = (Settings.Layer.ofAdjustments changes).onto (file.onto .standard)) ∧
    ((new goal?).adjustAll adjustments).settings = lastSettings adjustments ∧
    ∀ request diagram,
      ((new goal?).adjustAll adjustments).synthesize request = .ok (some diagram) →
      (∃ goal, goal? request.context request.goal = some goal ∧
        PlaneFigure.synthesize (lastPrinter adjustments) (request.spared goal) =
          .ok (some diagram) ∧
        ∀ key, key ∈ diagram.registry.entities.map Entity.key ↔
          ∃ operand ∈ operandsOf (request.spared goal),
            lastPrinter adjustments operand = .ok key) ∧
      (∀ renderer, lastWord? Adjustment.renderer? adjustments = some renderer →
        ((new goal?).adjustAll adjustments).handle request = answerOf (renderer
          { program := diagram.program.text
            domainSchema := (lastSettings adjustments).domainSchema
            styleSheet := (lastSettings adjustments).styleSheet
            labels := diagram.registry.entities.map Entity.label
            maxOptSteps := (lastSettings adjustments).maxOptSteps })) ∧
      (lastWord? Adjustment.renderer? adjustments = none → ∃ properties,
        ((new goal?).adjustAll adjustments).handle request =
          .ok ⟨some (.component (lastSettings adjustments).component (.object properties))⟩ ∧
        properties.lookup "dsl" = some (.string (lastSettings adjustments).domainSchema) ∧
        properties.lookup "sty" = some (.string (lastSettings adjustments).styleSheet) ∧
        properties.lookup "maxOptSteps" =
          some (.number (.integer (lastSettings adjustments).maxOptSteps.toNat)) ∧
        properties.lookup "sub" = some (.string diagram.program.text) ∧
        properties.lookup "embeds" = some (.array (diagram.registry.entities.map fun entity =>
          .array [.string entity.key, entity.label.markup.toJson]))) := by
  refine ⟨Settings.adjustAll_eq_onto .standard, Settings.adjustAll_ofText_eq_ok_iff,
    congrArg Service.settings (adjustAll_new goal? adjustments), ?_⟩
  intro request diagram succeeds
  rw [adjustAll_new] at succeeds ⊢
  refine ⟨?_, ?_, ?_⟩
  · obtain ⟨goal, found, drawn⟩ := synthesize_eq_some _ request diagram succeeds
    exact ⟨goal, found, drawn, mem_keys_of_synthesize _ _ diagram drawn⟩
  · intro renderer given
    rw [handle_of_diagram _ request diagram succeeds, activeRenderer, given]
    rfl
  · intro usual
    refine ⟨_, handle_of_component _ request diagram succeeds usual, rfl, rfl, rfl, rfl, ?_⟩
    exact congrArg (some ∘ Json.array) List.map_map

/-- A document with two of the fields and one that is unknown. -/
def sketchDocument : String := r#"{"maxOptSteps": 50, "theme": "dark", "component": "Sketch"}"#

/-- What the document says. -/
def sketchMembers : List (String × Draft) :=
  [("maxOptSteps", .number (some (.integer 50))), ("theme", .string (some "dark")),
    ("component", .string (some "Sketch"))]

/-- A goal with one fact, under every name. -/
def pointOnLine : ContextRef → GoalId → Option Goal := fun _ _ =>
  some ⟨⟨"g"⟩, [⟨⟨"h"⟩, "h", .apply "OnLine" [.var "x", .var "L"]⟩], none⟩

/-- The unknown field is passed over, the budget is adjusted twice afterwards, and the component
that the document names is handed the last budget and the standard style. -/
theorem Service.last_adjustments_documented :
    ∃ settings properties,
      (Settings.adjustAll · [.maxOptSteps 7, .maxOptSteps 9]) <$>
        Settings.ofText sketchDocument = .ok settings ∧
      ((new pointOnLine).adjustAll [.settings settings]).handle ⟨⟨"c"⟩, ⟨"g"⟩, []⟩ =
        .ok ⟨some (.component "Sketch" (.object properties))⟩ ∧
      properties.lookup "maxOptSteps" = some (.number (.integer 9)) ∧
      properties.lookup "sty" = some (.string Settings.standard.styleSheet) := by
  obtain ⟨_, documents, _⟩ := last_adjustments pointOnLine []
  have reads : Draft.ofText sketchDocument = (.ofMembers sketchMembers, true) := rfl
  have described : Settings.Layer.DescribedBy ⟨none, none, some 50, some "Sketch"⟩
      sketchMembers := by
    refine ⟨rfl, rfl, rfl, rfl, ?_⟩
    intro key document member unknown
    simp only [sketchMembers, List.mem_cons, List.not_mem_nil, Prod.mk.injEq] at member
    obtain ⟨rfl, rfl⟩ | ⟨rfl, rfl⟩ | ⟨rfl, rfl⟩ | impossible := member
    · simp at unknown
    · rfl
    · simp at unknown
    · exact impossible.elim
  have loads := (documents sketchDocument _ reads [.maxOptSteps 7, .maxOptSteps 9] _).mpr
    ⟨_, described, rfl⟩
  obtain ⟨_, _, _, answers⟩ := last_adjustments pointOnLine [.settings _]
  obtain ⟨_, _, component⟩ := answers ⟨⟨"c"⟩, ⟨"g"⟩, []⟩ _ rfl
  obtain ⟨properties, handled, _, style, budget, _⟩ := component rfl
  exact ⟨_, properties, loads, handled, budget, style⟩

/-- A renderer that was given earlier draws with the settings that are given later. -/
example :
    ((Service.new pointOnLine).adjustAll
      [.renderer .caption, .settings (Settings.standard.adjust (.maxOptSteps 7))]).handle
      ⟨⟨"c"⟩, ⟨"g"⟩, []⟩ = .ok ⟨some (.text "7 steps: Point x, Line L")⟩ :=
  rfl

end PlaneFigure
