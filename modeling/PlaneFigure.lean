import PlaneFigure.CommandLine.Arguments
import PlaneFigure.CommandLine.Run
import PlaneFigure.Diagram.Program
import PlaneFigure.Diagram.Registry
import PlaneFigure.Diagram.Synthesis
import PlaneFigure.Drawing.Basic
import PlaneFigure.Drawing.Renderer
import PlaneFigure.Files
import PlaneFigure.Geometry.Fact
import PlaneFigure.Geometry.Recognition
import PlaneFigure.Geometry.Shape
import PlaneFigure.Goal.Basic
import PlaneFigure.Goal.Fixture
import PlaneFigure.Goal.Selection
import PlaneFigure.Json.Decoding
import PlaneFigure.Json.Draft
import PlaneFigure.Json.Printing
import PlaneFigure.Json.Record
import PlaneFigure.Json.Token
import PlaneFigure.Json.Value
import PlaneFigure.Main
import PlaneFigure.Markup
import PlaneFigure.Number.Binary64
import PlaneFigure.Number.Literal
import PlaneFigure.Number.Shortest
import PlaneFigure.Panel
import PlaneFigure.Service.Basic
import PlaneFigure.Service.Dispatch
import PlaneFigure.Settings.Basic
import PlaneFigure.Settings.Bundled
import PlaneFigure.Table
import PlaneFigure.Term.Basic
import PlaneFigure.Term.Display
import PlaneFigure.Term.Reading
import PlaneFigure.Text.Blank
import PlaneFigure.Text.NameChar
import PlaneFigure.Text.Printable
import PlaneFigure.Text.Quoted
import PlaneFigure.Text.Ranges
import PlaneFigure.Wire.Basic
import PlaneFigure.Wire.Diagram
import PlaneFigure.Wire.Goal
import PlaneFigure.Wire.Markup
import PlaneFigure.Wire.Service
import PlaneFigure.Wire.Term
import PlaneFigure.Proofs.Diagram.FirstOccurrence
import PlaneFigure.Proofs.Diagram.Registration
import PlaneFigure.Proofs.Diagram.Stated
import PlaneFigure.Proofs.Diagram.ProgramLines
import PlaneFigure.Proofs.Diagram.Positions
import PlaneFigure.Proofs.Panel.Interleaving
import PlaneFigure.Proofs.Term.Lexing
import PlaneFigure.Proofs.Term.Grammar
import PlaneFigure.Proofs.Diagram.ProgramText
import PlaneFigure.Proofs.Diagram.ReadHypotheses
import PlaneFigure.Proofs.Term.Canonical
import PlaneFigure.Proofs.Diagram.Withheld
import PlaneFigure.Proofs.Diagram.InStep
import PlaneFigure.Proofs.Panel.Settled
import PlaneFigure.Proofs.Json.Fields
import PlaneFigure.Proofs.Json.Record
import PlaneFigure.Proofs.Wire.Lawful
import PlaneFigure.Proofs.Wire.RoundTrip
import PlaneFigure.Proofs.Panel.Noninterference
import PlaneFigure.Proofs.Service.Dispatch
import PlaneFigure.Proofs.CommandLine.Modes
import PlaneFigure.Proofs.Diagram.Continuation
import PlaneFigure.Proofs.Diagram.Kinds
import PlaneFigure.Proofs.Diagram.Failure
import PlaneFigure.Proofs.Diagram.Rearrangement
import PlaneFigure.Proofs.Diagram.Renaming
import PlaneFigure.Proofs.Service.Answer
import PlaneFigure.Proofs.Term.FirstDefect
import PlaneFigure.Proofs.Term.MissingTerm
import PlaneFigure.Proofs.Term.PlainDisplay
import PlaneFigure.Proofs.Diagram.Recognition
import PlaneFigure.Proofs.Goal.Selection
import PlaneFigure.Proofs.Goal.Folder
import PlaneFigure.Proofs.LastWord
import PlaneFigure.Proofs.Traversal
import PlaneFigure.Proofs.Goal.Contexts
import PlaneFigure.Proofs.Goal.Loading
import PlaneFigure.Proofs.Term.Placement
import PlaneFigure.Proofs.Settings.Layers
import PlaneFigure.Proofs.Service.Adjustments
