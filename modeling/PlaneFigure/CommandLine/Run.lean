import PlaneFigure.CommandLine.Arguments
import PlaneFigure.Goal.Fixture
import PlaneFigure.Panel
import PlaneFigure.Service.Dispatch

/-!
# Running a command line

The command line loads one goal, hides the hypotheses it is told to, and prints either the
program of the diagram or the answer of the service as JSON. Settings are loaded before the
goal: a document first, then the options that replace single fields.

What can be read of files is given as a function of their paths, so a run is a function of
its arguments and these files.

A failed run is reported with what was attempted and with the causes of the failure. A fault of
a JSON document is reported without its line and column.
-/

namespace PlaneFigure.CommandLine

/-- What is reported of a failure: what was attempted, and the causes from the nearest one to the
farthest. -/
structure Report where
  account : String
  causes : List String

namespace Report

/-- A text behind a heading. Further lines of it begin below the first one. -/
def hanging (heading text : String) : String :=
  heading ++ String.ofList (text.toList.flatMap fun char =>
    if char = '\n' then '\n' :: List.replicate heading.length ' ' else [char])

/-- The heading of a cause among several ones. -/
def numbered (number : Nat) : String :=
  let digits := toString number
  String.ofList (List.replicate (5 - digits.length) ' ') ++ digits ++ ": "

/-- The text of a report. Causes are numbered from zero on, unless there is only one. -/
def text (report : Report) : String :=
  let headed := fun causes => "\n\nCaused by:\n" ++ "\n".intercalate causes
  report.account ++
    match report.causes with
    | [] => ""
    | [cause] => headed [hanging "    " cause]
    | causes => headed (causes.zipIdx.map fun (cause, number) => hanging (numbered number) cause)

end Report

/-- Why a run fails. -/
inductive Failure where
  | usage (fault : UsageError)
  | settings (path : String) (fault : Settings.LoadError)
  | unreadable (path : String) (fault : ReadFault)
  | fixture (path : String) (fault : FixtureError)
  | service (fault : ServiceError)

namespace Failure

/-- The report of a failed run. Failed requests are reported as they are; around the others
stands what was done with the file. -/
def report : Failure → Report
  | usage fault => ⟨fault.message, []⟩
  | settings path fault => ⟨"loading config " ++ path, fault.message path :: fault.causes⟩
  | unreadable path fault => ⟨"reading " ++ path, [fault.message]⟩
  | fixture path fault => ⟨"loading " ++ path, fault.message path :: fault.causes⟩
  | service fault => ⟨fault.message, fault.causes⟩

/-- The account of a failed run. -/
def message (failure : Failure) : String :=
  match failure with
  | usage _ => "error: " ++ failure.report.text
  | _ => "Error: " ++ failure.report.text

/-- The exit code of a failed run. -/
def exitCode : Failure → UInt8
  | usage _ => 2
  | _ => 1

end Failure

/-- A goal with a term that ends too early is reported with the path, the hypothesis and the
fault. -/
example : Failure.message (.fixture "goal.json" (.invalidTerm "h" .empty)) =
    "Error: loading goal.json\n\nCaused by:\n    0: invalid term in h: empty term\n" ++
      "    1: empty term" := by
  decide

/-- What a successful run prints. -/
structure Printed where
  output : String
  /-- Whether it is noted that there is nothing to draw. -/
  noDiagram : Bool

/-- What can be read at a path. -/
abbrev FileView := String → Option Entry

/-- The text at the path that an option gives, if it gives one. -/
def textAt (files : FileView) (path : Option String) : Except Failure (Option String) :=
  match path with
  | none => .ok none
  | some path =>
    match Entry.readText (files path) with
    | .ok text => .ok (some text)
    | .error fault => .error (.unreadable path fault)

/-- The settings that options ask for. -/
def settingsOf (files : FileView) (options : Options) : Except Failure Settings := do
  let base ← match options.settings with
    | none => .ok Settings.standard
    | some path => (Settings.ofFile (files path)).mapError (.settings path)
  let styleSheet ← textAt files options.styleSheet
  let domainSchema ← textAt files options.domainSchema
  return base.adjustAll
    ((options.maxOptSteps.map .maxOptSteps).toList ++ (styleSheet.map .styleSheet).toList ++
      (domainSchema.map .domainSchema).toList ++ (options.component.map .component).toList)

/-- The context in which the goal of a command line is served. -/
def context : ContextRef := ⟨"cli"⟩

/-- The service for the one goal of a command line. -/
def serviceFor (goal : Goal) (settings : Settings) : Service :=
  (Service.new (Contexts.empty.insert context (.ofGoals [goal])).goal?).adjust (.settings settings)

/-- The request of a command line. -/
def requestFor (goal : Goal) (hidden : List String) : Request :=
  ⟨context, goal.id, hidden.map fun id => .hypothesis ⟨id⟩⟩

/-- Print the answer of a service as JSON. -/
def printAnswer (service : Service) (request : Request) : Except Failure Printed :=
  match service.dispatch Service.method (Wire.encode request) with
  | .error fault => .error (.service fault)
  | .ok answer => .ok ⟨answer.canonical.pretty 0 ++ "\n", false⟩

/-- Print the program of a diagram, or nothing if there is nothing to draw. -/
def printProgram (service : Service) (request : Request) : Except Failure Printed :=
  match service.synthesize request with
  | .error fault => .error (.service fault)
  | .ok none => .ok ⟨"", true⟩
  | .ok (some diagram) => .ok ⟨diagram.program.text ++ "\n", false⟩

/-- Run a command line that is understood. -/
def runArguments (files : FileView) (arguments : Arguments) : Except Failure Printed := do
  let settings ← settingsOf files arguments.options
  let (_, goal) ← (GoalFixture.ofFile (files arguments.goal)).mapError
    (.fixture arguments.goal)
  let service := serviceFor goal settings
  let request := requestFor goal arguments.options.hidden
  if arguments.options.json then printAnswer service request else printProgram service request

/-- Run a command line. -/
def run (files : FileView) (arguments : List String) : Except Failure Printed :=
  match Arguments.ofList arguments with
  | .error fault => .error (.usage fault)
  | .ok arguments => runArguments files arguments

/-- The paths that a run may look at. -/
def paths (arguments : List String) : List String :=
  match Arguments.ofList arguments with
  | .error _ => []
  | .ok ⟨goal, options⟩ =>
    goal :: (options.settings.toList ++ options.styleSheet.toList ++ options.domainSchema.toList)

end PlaneFigure.CommandLine
