import PlaneFigure.Panel
import PlaneFigure.Wire.Goal
import PlaneFigure.Wire.Markup

/-!
# The wire forms of requests, answers and settings

All of these are records. Lists of locations may be left out and are empty then; an answer
without markup is an empty object.
-/

namespace PlaneFigure

open Json (Record)

instance : Wire Request where
  encode request := .object (Wire.member "contextRef" request.context ++
    Wire.member "goalId" request.goal ++ Wire.member "locs" request.locations)
  decode := Record.decoder
    (Request.mk <$> Wire.field ContextRef "contextRef" <*> Wire.field GoalId "goalId"
      <*> .withDefault "locs" Wire.decode [])
    "GoalRequest"

instance : Wire Response where
  encode response := .object (Wire.optionalMember "html" response.markup)
  decode := Record.decoder (Response.mk <$> Wire.optionalField Markup "html") "GoalResponse"

instance : Wire Settings where
  encode settings := .object (Wire.member "domainSchema" settings.domainSchema ++
    Wire.member "styleSheet" settings.styleSheet ++
    Wire.member "maxOptSteps" settings.maxOptSteps ++
    Wire.member "component" settings.component)
  decode := Settings.decoder

/-- The wire form of an optional value: null if there is none. -/
def Wire.orNull {α : Type} [Wire α] : Option α → Json
  | some value => encode value
  | none => .null

instance : Wire Cursor where
  encode cursor := .object (Wire.member "contextRef" cursor.context ++
    [("goalId", Wire.orNull cursor.goal)])
  decode := Record.decoder
    (Cursor.mk <$> Wire.field ContextRef "contextRef" <*> Wire.optionalField GoalId "goalId")
    "CursorLocation"

instance : Wire Panel.Props where
  encode props := .object (Wire.member "cursor" props.cursor ++
    Wire.member "goals" props.goals ++ Wire.member "selectedLocations" props.selected)
  decode := Record.decoder
    (Panel.Props.mk <$> Wire.field Cursor "cursor" <*> Wire.field (List GoalId) "goals"
      <*> .withDefault "selectedLocations" Wire.decode [])
    "PanelProps"

end PlaneFigure
