import PlaneFigure.CommandLine.Run
import PlaneFigure.Proofs.Diagram.ReadHypotheses
import PlaneFigure.Proofs.Diagram.Withheld
import PlaneFigure.Proofs.Goal.Folder
import PlaneFigure.Proofs.Service.Dispatch

/-!
# The two ways to print a goal

The command line prints the program of a diagram, or the answer of the service as JSON. For the
program it asks the service for a diagram directly; for the answer it calls the service by name,
with a request in wire form, and has the diagram rendered. Both ways lead to the same diagram:
the answer has markup exactly if a program is printed, the markup is a component, and this
component is given the program that is printed.

Once the goal is loaded nothing can fail. A fixture is usable only if all its types were read
from text, so whatever is hidden, the operands that remain are displayed; the goal is the one
that the session of the command line holds; the request is decoded from its wire form; and the
component of the settings renders every drawing.
-/

namespace PlaneFigure.CommandLine

/-- The hypotheses of a loaded goal have types that were read from text. -/
theorem readFromText_of_goal (fixture : GoalFixture) (goal : Goal)
    (usable : fixture.goal = .ok goal) : ReadFromText goal.hypotheses := by
  rw [GoalFixture.goal, bind_eq_ok_iff] at usable
  obtain ⟨hypotheses, converted, rest⟩ := usable
  rw [bind_eq_ok_iff] at rest
  obtain ⟨target, _, returned⟩ := rest
  obtain rfl := Except.ok.inj returned
  intro hypothesis member
  obtain ⟨written, _, converts⟩ := mem_of_mapM_eq_ok _ _ _ converted hypothesis member
  obtain ⟨type, read, rfl⟩ := (map_eq_ok_iff _ _ _).mp converts
  exact ⟨written.type, (mapError_eq_ok_iff _ _ _).mp read⟩

/-- The goal of a command line is found in its session. -/
theorem goal?_serviceFor (goal : Goal) (settings : Settings) :
    (serviceFor goal settings).goal? context goal.id = some goal := by
  simp [serviceFor, Service.new, Service.adjust, Contexts.goal?, Contexts.snapshot?_insert,
    Snapshot.goal?, Snapshot.ofGoals, Table.get?_insert]

/-- The diagram of a command line is that of the visible hypotheses. -/
theorem synthesize_serviceFor (goal : Goal) (settings : Settings) (hidden : List String) :
    (serviceFor goal settings).synthesize (requestFor goal hidden) =
      (synthesize Term.plain (visible goal.hypotheses (requestFor goal hidden).locations)).mapError
        .undisplayable := by
  have found := goal?_serviceFor goal settings
  unfold Service.synthesize
  simp only [requestFor, found]
  rfl

/-- The diagram of a command line does not fail once its goal is loaded: hypotheses are left out
of those that were read from text, and the others are displayed as before. -/
theorem synthesize_of_goal (fixture : GoalFixture) (goal : Goal)
    (usable : fixture.goal = .ok goal) (settings : Settings) (hidden : List String) :
    ∃ result, (serviceFor goal settings).synthesize (requestFor goal hidden) = .ok result := by
  have read : ReadFromText (visible goal.hypotheses (requestFor goal hidden).locations) := by
    intro hypothesis member
    exact readFromText_of_goal fixture goal usable hypothesis
      ((visible_sublist _ _).subset member)
  obtain ⟨result, succeeds, _⟩ := synthesize_succeeds Term.plain _ (displays_plain _ read)
  refine ⟨result, ?_⟩
  rw [synthesize_serviceFor, succeeds]
  rfl

/-- The service of a command line answers with the component of the settings, which is given
the drawing of the diagram. -/
theorem handle_serviceFor (goal : Goal) (settings : Settings) (request : Request)
    (result : Option Diagram)
    (succeeds : (serviceFor goal settings).synthesize request = .ok result) :
    (serviceFor goal settings).handle request =
      .ok ⟨result.map fun diagram =>
        .component settings.component (Drawing.ofDiagram diagram settings).properties⟩ := by
  rw [Service.handle, succeeds]
  cases result <;> rfl

/-- A loaded goal is printed in the way that is asked for. -/
theorem runArguments_of_loaded (files : FileView) (path : String) (options : Options)
    (settings : Settings) (fixture : GoalFixture) (goal : Goal)
    (configured : settingsOf files options = .ok settings)
    (loaded : GoalFixture.ofFile (files path) = .ok (fixture, goal)) :
    runArguments files ⟨path, options⟩ =
      if options.json then
        printAnswer (serviceFor goal settings) (requestFor goal options.hidden)
      else printProgram (serviceFor goal settings) (requestFor goal options.hidden) := by
  rw [runArguments, configured, loaded]
  rfl

/-- The answer has markup. -/
def HasMarkup (answer : Json) : Prop :=
  ∃ members, answer = .object members ∧ "html" ∈ members.map Prod.fst

/-- The answer has a component for its markup, and this component is given the program. -/
def Draws (component : String) (answer : Json) (program : String) : Prop :=
  ∃ properties,
    answer = Wire.encode (Response.mk (some (.component component (.object properties)))) ∧
    properties.lookup "sub" = some (.string program)

/-- An answer that draws a program has markup. -/
theorem Draws.hasMarkup {component : String} {answer : Json} {program : String}
    (draws : Draws component answer program) : HasMarkup answer := by
  obtain ⟨properties, rfl, _⟩ := draws
  exact ⟨_, rfl, List.mem_singleton_self _⟩

/-- An answer draws one program only. -/
theorem Draws.unique {component : String} {answer : Json} {program other : String}
    (draws : Draws component answer program) (drawsOther : Draws component answer other) :
    program = other := by
  obtain ⟨properties, rfl, given⟩ := draws
  obtain ⟨others, same, givenOther⟩ := drawsOther
  have responses := Response.roundTrips.encode_injective _ _ same
  simp only [Response.mk.injEq, Option.some.injEq, Markup.component.injEq, Json.object.injEq,
    true_and] at responses
  rw [responses, givenOther] at given
  exact (Json.string.inj (Option.some.inj given)).symm

/-- An answer with a component has its members in order, and the properties are sorted. -/
theorem canonical_encode_component (name : String) (properties : Json) :
    (Wire.encode (Response.mk (some (.component name properties)))).canonical =
      Wire.encode (Response.mk (some (.component name properties.canonical))) := by
  have sorted :
      Json.Sorted (Json.canonicalMembers [("name", .string name), ("props", properties)]) := by
    change ["name", "props"].Pairwise (· < ·)
    decide
  change Json.object [("html", (Markup.component name properties).toJson.canonical)] = _
  rw [Markup.canonical_component, Json.sortMembers_of_sorted _ sorted]
  rfl

/-- The component of a drawing is given the program of the drawing when it is printed. -/
theorem draws_component (component : String) (drawing : Drawing) :
    Draws component
      (Wire.encode (Response.mk (some (.component component drawing.properties)))).canonical
      drawing.program := by
  refine ⟨_, canonical_encode_component component drawing.properties, ?_⟩
  exact Json.lookup_canonical_members "sub" (.string drawing.program) _ (by simp) (by simp)

/-- What is printed as text agrees with an answer that is printed as JSON. -/
structure Agree (component : String) (printed : Printed) (answer : Json) : Prop where
  /-- A program is printed exactly if the answer has markup, -/
  program_iff : (∃ program : Program, printed = ⟨program.text ++ "\n", false⟩) ↔ HasMarkup answer
  /-- it is the one that the component of the answer is given, -/
  draws_iff : ∀ program, printed = ⟨program ++ "\n", false⟩ ↔ Draws component answer program
  /-- and nothing but a note is printed exactly if the answer is empty. -/
  nothing_iff : printed = ⟨"", true⟩ ↔ answer = .object []

/-- Nothing is printed for the empty answer. -/
theorem Agree.nothing (component : String) : Agree component ⟨"", true⟩ (.object []) := by
  have bare : ¬ HasMarkup (.object []) := by
    rintro ⟨members, same, found⟩
    obtain rfl := Json.object.inj same
    cases found
  refine ⟨⟨?_, fun markup => absurd markup bare⟩, ?_, by simp⟩
  · rintro ⟨program, same⟩
    cases (Printed.mk.inj same).2
  · intro program
    constructor
    · intro same
      cases (Printed.mk.inj same).2
    · intro draws
      exact absurd draws.hasMarkup bare

/-- The program that the answer draws is printed. -/
theorem Agree.program (component : String) (program : Program) (answer : Json)
    (draws : Draws component answer program.text) :
    Agree component ⟨program.text ++ "\n", false⟩ answer := by
  refine ⟨⟨fun _ => draws.hasMarkup, fun _ => ⟨program, rfl⟩⟩, ?_, ?_⟩
  · intro other
    constructor
    · intro same
      have text := (String.append_left_inj "\n").mp (Printed.mk.inj same).1
      exact text ▸ draws
    · intro drawsOther
      rw [draws.unique drawsOther]
  · constructor
    · intro same
      cases (Printed.mk.inj same).2
    · rintro rfl
      obtain ⟨properties, same, _⟩ := draws
      cases same

/-- Once a goal and settings are loaded, both ways to print the goal succeed, whatever is hidden.
The answer that is printed as JSON, with its members in order, is that of the service called by
name, and it agrees with what is printed as text. -/
theorem output_modes_agree (files : FileView) (path : String) (options : Options)
    (settings : Settings) (fixture : GoalFixture) (goal : Goal)
    (configured : settingsOf files options = .ok settings)
    (loaded : GoalFixture.ofFile (files path) = .ok (fixture, goal)) :
    ∃ printed answer,
      runArguments files ⟨path, { options with json := false }⟩ = .ok printed ∧
      runArguments files ⟨path, { options with json := true }⟩ =
        .ok ⟨answer.canonical.pretty 0 ++ "\n", false⟩ ∧
      (serviceFor goal settings).dispatch "getEuclideanGoal"
        (Wire.encode (requestFor goal options.hidden)) = .ok answer ∧
      Agree settings.component printed answer.canonical := by
  obtain ⟨result, synthesizes⟩ := synthesize_of_goal fixture goal
    (GoalFixture.goal_of_ofFile _ fixture goal loaded) settings options.hidden
  have answered := (serviceFor goal settings).dispatch_encode (requestFor goal options.hidden) _
    List.mem_cons_self
  rw [handle_serviceFor goal settings _ result synthesizes] at answered
  have asText := runArguments_of_loaded files path { options with json := false } settings fixture
    goal configured loaded
  have asJson := runArguments_of_loaded files path { options with json := true } settings fixture
    goal configured loaded
  simp only [if_true, printProgram, printAnswer, synthesizes, answered] at asText asJson
  cases result with
  | none => exact ⟨_, _, asText, asJson, answered, .nothing _⟩
  | some diagram =>
    exact ⟨_, _, asText, asJson, answered,
      .program _ _ _ (draws_component _ (.ofDiagram diagram settings))⟩

/-- A single file, which holds a goal with two hypotheses. -/
def oneFile : FileView := fun path =>
  if path = "goal.json" then
    some (.file (
      r#"{"id": "g", "hypotheses": [{"name": "h", "type": "OnLine a L"}, "# ++
      r#"{"name": "k", "type": "OnCircle b C"}]}"#).toUTF8)
  else none

/-- With one hypothesis hidden, the fact of the other one is printed, and the answer draws it. -/
theorem output_modes_agree_hiding :
    settingsOf oneFile { hidden := ["k"], component := some "Sketch" } =
      .ok { Settings.standard with component := "Sketch" } ∧
    ∃ answer,
      runArguments oneFile ⟨"goal.json", { hidden := ["k"], component := some "Sketch" }⟩ =
        .ok ⟨"AutoLabel All\nPoint a\nLine L\nOnLine(a, L)\n", false⟩ ∧
      runArguments oneFile
        ⟨"goal.json", { hidden := ["k"], component := some "Sketch", json := true }⟩ =
          .ok ⟨answer.pretty 0 ++ "\n", false⟩ ∧
      Draws "Sketch" answer "AutoLabel All\nPoint a\nLine L\nOnLine(a, L)" := by
  have configured : settingsOf oneFile { hidden := ["k"], component := some "Sketch" } =
      .ok { Settings.standard with component := "Sketch" } := rfl
  have loaded : GoalFixture.ofFile (oneFile "goal.json") =
      .ok (⟨"g", "", [⟨none, "h", "OnLine a L"⟩, ⟨none, "k", "OnCircle b C"⟩], none⟩,
        ⟨⟨"g"⟩, [⟨⟨"h"⟩, "h", .apply "OnLine" [.var "a", .var "L"]⟩,
          ⟨⟨"k"⟩, "k", .apply "OnCircle" [.var "b", .var "C"]⟩], none⟩) := rfl
  obtain ⟨printed, answer, asText, asJson, _, agree⟩ :=
    output_modes_agree oneFile "goal.json" _ _ _ _ configured loaded
  have text : runArguments oneFile
      ⟨"goal.json", { hidden := ["k"], component := some "Sketch" }⟩ =
        .ok ⟨"AutoLabel All\nPoint a\nLine L\nOnLine(a, L)\n", false⟩ :=
    (runArguments_of_loaded oneFile "goal.json" _ _ _ _ configured loaded).trans rfl
  rw [text] at asText
  obtain rfl := Except.ok.inj asText
  exact ⟨configured, answer.canonical, text, asJson, (agree.draws_iff _).mp rfl⟩

end PlaneFigure.CommandLine
