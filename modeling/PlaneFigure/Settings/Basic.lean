import PlaneFigure.Files
import PlaneFigure.Json.Record
import PlaneFigure.Settings.Bundled

/-!
# Settings

What the layout engine is given besides a program: the vocabulary, the style, a budget of
steps and the name of the component that shows the result. Settings come in layers. At the
bottom are the standard settings; a document replaces the fields that it mentions; later
adjustments replace one field each, and the last adjustment of a field counts.
-/

namespace PlaneFigure

/-- The static inputs of the layout engine. -/
structure Settings where
  domainSchema : String
  styleSheet : String
  maxOptSteps : UInt32
  component : String
deriving DecidableEq

namespace Settings

/-- The settings for plane geometry. -/
def standard : Settings where
  domainSchema := Bundled.domainSchema
  styleSheet := Bundled.styleSheet
  maxOptSteps := 500
  component := Bundled.component

/-- A new value for one field. -/
inductive Adjustment where
  | domainSchema (text : String)
  | styleSheet (text : String)
  | maxOptSteps (steps : UInt32)
  | component (name : String)

/-- Make one adjustment. -/
def adjust (settings : Settings) : Adjustment → Settings
  | .domainSchema text => { settings with domainSchema := text }
  | .styleSheet text => { settings with styleSheet := text }
  | .maxOptSteps steps => { settings with maxOptSteps := steps }
  | .component name => { settings with component := name }

/-- Make adjustments one after the other. -/
def adjustAll (settings : Settings) (adjustments : List Adjustment) : Settings :=
  adjustments.foldl adjust settings

/-- Settings as a document: the standard settings where it mentions no field. -/
def decoder {δ : Type} [Json.Document δ] : Json.Decoder δ Settings :=
  Json.Record.decoder
    (Settings.mk <$> .withDefault "domainSchema" Json.Decoder.string standard.domainSchema
      <*> .withDefault "styleSheet" Json.Decoder.string standard.styleSheet
      <*> .withDefault "maxOptSteps" Json.Decoder.word32 standard.maxOptSteps
      <*> .withDefault "component" Json.Decoder.string standard.component)
    "DiagramConfig"

/-- Why settings cannot be loaded. -/
inductive LoadError where
  /-- No text can be read at the place of the document. -/
  | unreadable (fault : ReadFault)
  | invalid (fault : Json.DecodeError)

namespace LoadError

/-- The account of a failure to load settings from a path. -/
def message (path : String) : LoadError → String
  | unreadable fault => "cannot read config " ++ path ++ ": " ++ fault.message
  | invalid fault => "invalid config: " ++ fault.message

/-- The accounts of what caused the failure. -/
def causes : LoadError → List String
  | unreadable fault => [fault.message]
  | invalid fault => [fault.message]

end LoadError

/-- The settings that a text describes. -/
def ofText (text : String) : Except LoadError Settings :=
  (Json.decodeText decoder text).mapError .invalid

/-- The settings in a file, if there is one. -/
def ofFile (entry : Option Entry) : Except LoadError Settings :=
  match Entry.readText entry with
  | .ok text => ofText text
  | .error fault => .error (.unreadable fault)

end Settings

end PlaneFigure
