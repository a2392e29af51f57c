import PlaneFigure.Goal.Fixture
import PlaneFigure.Goal.Selection
import PlaneFigure.Wire.Term

/-!
# The wire forms of goals and selections

Goals, hypotheses and fixtures are records. A location names its own kind in the field `kind`
beside its other fields; written as an array, the kind comes first. The kind is decoded before
the other fields.
-/

namespace PlaneFigure

open Json (DecodeError Decoder Document Record)

instance : Wire GoalId := Wire.wrapper GoalId.mk GoalId.text

instance : Wire HypothesisId := Wire.wrapper HypothesisId.mk HypothesisId.text

instance : Wire ContextRef := Wire.wrapper ContextRef.mk ContextRef.text

instance : Wire Position := Wire.wrapper Position.mk Position.text

instance : Wire Hypothesis where
  encode hypothesis := .object (Wire.member "id" hypothesis.id ++
    Wire.member "name" hypothesis.name ++ Wire.member "ty" hypothesis.type)
  decode := Record.decoder
    (Hypothesis.mk <$> Wire.field HypothesisId "id" <*> Wire.field String "name"
      <*> Wire.field Term "ty")
    "Hypothesis"

instance : Wire Goal where
  encode goal := .object (Wire.member "id" goal.id ++
    Wire.member "hypotheses" goal.hypotheses ++ Wire.optionalMember "target" goal.target)
  decode := Record.decoder
    (Goal.mk <$> Wire.field GoalId "id" <*> Wire.field (List Hypothesis) "hypotheses"
      <*> Wire.optionalField Term "target")
    "GoalContext"

instance : Wire HypothesisFixture where
  encode fixture := .object (Wire.optionalMember "id" fixture.id ++
    Wire.member "name" fixture.name ++ Wire.member "type" fixture.type)
  decode := HypothesisFixture.decoder

instance : Wire GoalFixture where
  encode fixture := .object (Wire.member "id" fixture.id ++
    Wire.member "description" fixture.description ++
    Wire.member "hypotheses" fixture.hypotheses ++ Wire.optionalMember "target" fixture.target)
  decode := GoalFixture.decoder

namespace Location

/-- The wire form of a location. -/
def toJson : Location → Json
  | hypothesis id => .object (Wire.member "kind" "hyp" ++ Wire.member "id" id)
  | hypothesisType id position =>
    .object (Wire.member "kind" "hypType" ++ Wire.member "id" id ++ Wire.member "pos" position)
  | target => .object (Wire.member "kind" "target")
  | targetType position =>
    .object (Wire.member "kind" "targetType" ++ Wire.member "pos" position)

/-- What a kind of location is called in messages, and its fields besides the kind. -/
structure Form where
  title : String
  fields : Record Json Location

/-- The kinds of locations by name. -/
def forms : List (String × Form) :=
  [("hyp", ⟨"Hyp", hypothesis <$> Wire.field HypothesisId "id"⟩),
    ("hypType", ⟨"HypType",
      hypothesisType <$> Wire.field HypothesisId "id" <*> Wire.field Position "pos"⟩),
    ("target", ⟨"Target", pure target⟩),
    ("targetType", ⟨"TargetType", targetType <$> Wire.field Position "pos"⟩)]

/-- The kind of location that a document names. -/
def formOf (document : Json) : Except DecodeError Form :=
  match Document.view document with
  | .string name =>
    match forms.lookup name with
    | some form => .ok form
    | none => .error (.unknownVariant name (forms.map Prod.fst))
  | found => .error (found.mismatch .variant)

/-- The fields of a location in an array after its kind. -/
def Form.ofItems (form : Form) (items : List Json) : Except DecodeError Location :=
  let count := form.fields.names.length
  form.fields.ofItems (.variantItems ("SelectedLocation::" ++ form.title) count)
    (.wrongLength items.length (.items count)) items

/-- The location of a wire form. -/
def ofJson : Decoder Json Location := fun document =>
  match Document.view document with
  | .object members =>
    match members.lookup "kind" with
    | none => .error (.missingField "kind")
    | some kind =>
      match formOf kind with
      | .error fault => .error fault
      | .ok form => form.fields.ofMembers members
  | .array [] => .error (.missingField "kind")
  | .array (kind :: items) =>
    match formOf kind with
    | .error fault => .error fault
    | .ok form => form.ofItems items
  | found => .error (found.mismatch (.tagged "SelectedLocation"))

instance : Wire Location := ⟨toJson, ofJson⟩

end Location

instance : Wire GoalLocation where
  encode selected := .object (Wire.member "goalId" selected.goal ++
    Wire.member "loc" selected.location)
  decode := Record.decoder
    (GoalLocation.mk <$> Wire.field GoalId "goalId" <*> Wire.field Location "loc")
    "GoalLocation"

end PlaneFigure
