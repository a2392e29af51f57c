import PlaneFigure.Geometry.Fact

/-!
# Diagram programs

The layout engine is driven by a program of lines: a header that asks for automatic labels,
declarations of objects, and facts about declared objects. A program is kept as its lines;
its text joins the texts of the lines, so a program without lines has the empty text.

Nothing here enforces that objects are declared, or that the header comes first; programs
may also come from outside.
-/

namespace PlaneFigure

/-- A line of a program. -/
inductive Line where
  | autoLabel
  | declare (kind : Kind) (key : String)
  | fact (stated : Fact String)
deriving DecidableEq

namespace Line

/-- The text of a line. -/
def text : Line → String
  | autoLabel => "AutoLabel All"
  | declare kind key => kind.name ++ " " ++ key
  | fact stated => stated.text

/-- Whether the line is a fact. -/
def isFact : Line → Bool
  | fact _ => true
  | _ => false

/-- Whether the line is a declaration. -/
def isDeclaration : Line → Bool
  | declare .. => true
  | _ => false

end Line

/-- A program for the layout engine. -/
structure Program where
  lines : List Line
deriving DecidableEq

namespace Program

/-- The program that only has the header. -/
def new : Program := ⟨[.autoLabel]⟩

/-- Append the declaration of an object. -/
def declare (program : Program) (kind : Kind) (key : String) : Program :=
  ⟨program.lines ++ [.declare kind key]⟩

/-- Append a fact. -/
def state (program : Program) (fact : Fact String) : Program := ⟨program.lines ++ [.fact fact]⟩

/-- How many lines are facts. -/
def factCount (program : Program) : Nat := program.lines.countP Line.isFact

/-- How many lines are declarations. -/
def declarationCount (program : Program) : Nat := program.lines.countP Line.isDeclaration

/-- The text of a program, one line of text for each of its lines. -/
def text (program : Program) : String := "\n".intercalate (program.lines.map Line.text)

end Program

end PlaneFigure
