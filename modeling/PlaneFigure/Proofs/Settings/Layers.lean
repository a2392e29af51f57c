import PlaneFigure.Proofs.Json.Fields
import PlaneFigure.Proofs.LastWord
import PlaneFigure.Settings.Basic

/-!
# Layers of settings

A layer has a value for some of the fields of settings. What lies under it shows through in the
other fields, and only there. Both ways to depart from given settings are layers: the document of
a file is one, with the fields that it mentions, and so is a sequence of adjustments, with the
fields that some adjustment concerns; of several adjustments of one field the last one counts.

A document can be loaded exactly if it describes a layer: every field that it mentions stands
there once, with a value of its type, and what stands under other keys can be passed over. What is
loaded is this layer on top of the standard settings.
-/

namespace PlaneFigure.Settings

open Json (Draft Record)

/-- Values for some of the fields. -/
structure Layer where
  domainSchema : Option String
  styleSheet : Option String
  maxOptSteps : Option UInt32
  component : Option String

namespace Layer

/-- A layer on top of settings. -/
def onto (layer : Layer) (settings : Settings) : Settings where
  domainSchema := layer.domainSchema.getD settings.domainSchema
  styleSheet := layer.styleSheet.getD settings.styleSheet
  maxOptSteps := layer.maxOptSteps.getD settings.maxOptSteps
  component := layer.component.getD settings.component

/-- The members of an object describe a layer: they have one document for each field that the layer
has a value for, none for the other fields, and no other documents that cannot be passed over. -/
structure DescribedBy (layer : Layer) (members : List (String × Draft)) : Prop where
  domainSchema : Record.documents "domainSchema" members =
    (layer.domainSchema.map fun text => Draft.string (some text)).toList
  styleSheet : Record.documents "styleSheet" members =
    (layer.styleSheet.map fun text => Draft.string (some text)).toList
  maxOptSteps : Record.documents "maxOptSteps" members =
    (layer.maxOptSteps.map fun steps => Draft.number (some (.integer steps.toNat))).toList
  component : Record.documents "component" members =
    (layer.component.map fun name => Draft.string (some name)).toList
  others : ∀ key document, (key, document) ∈ members →
    key ∉ ["domainSchema", "styleSheet", "maxOptSteps", "component"] → document.passable = true

end Layer

/-! ### Documents -/

section Documents

variable {α : Type} {decoder : Json.Decoder Draft α} {written : α → Draft}

/-- A field whose values are written in one way only is read from documents if these are what is
written of the value, or none if the field has its default. -/
theorem read_withDefault_eq_ok_iff (name : String) (absent : α)
    (exact : ∀ draft value, decoder draft = .ok value ↔ draft = written value)
    (missing : String → Json.DecodeError) (members : List (String × Draft)) (value : α) :
    (Record.withDefault name decoder absent).read missing members = .ok value ↔
      ∃ given : Option α, given.getD absent = value ∧
        Record.documents name members = (given.map written).toList := by
  rw [Record.withDefault, Record.read_field_eq_ok_iff]
  simp [Option.exists, exact, and_comm]

end Documents

/-- What is loaded from the document of an object is decoded from its members. -/
theorem ofText_eq_ok_iff_ofMembers (text : String) (members : List (String × Draft))
    (reads : Draft.ofText text = (.ofMembers members, true)) (settings : Settings) :
    ofText text = .ok settings ↔ decoder (Draft.ofMembers members) = .ok settings := by
  rw [ofText, mapError_eq_ok_iff, Json.decodeText_eq_ok_iff, reads]
  simp

/-- A document can be loaded exactly if its members describe a layer, and what is loaded is this
layer on top of the standard settings. -/
theorem ofText_eq_ok_iff (text : String) (members : List (String × Draft))
    (reads : Draft.ofText text = (.ofMembers members, true)) (settings : Settings) :
    ofText text = .ok settings ↔
      ∃ layer : Layer, layer.DescribedBy members ∧ settings = layer.onto standard := by
  rw [ofText_eq_ok_iff_ofMembers text members reads, decoder, Record.decoder, Draft.view_ofMembers]
  dsimp only
  rw [Record.ofMembers_eq_ok_iff]
  simp only [Record.read_seq_eq_ok_iff, Record.read_map_eq_ok_iff,
    read_withDefault_eq_ok_iff _ _ Json.Decoder.string_eq_ok_iff,
    read_withDefault_eq_ok_iff _ _ Json.Decoder.word32_eq_ok_iff]
  constructor
  · rintro ⟨⟨_, _, ⟨_, _, ⟨_, _, ⟨_, ⟨schema, rfl, schemaGiven⟩, rfl⟩,
      ⟨style, rfl, styleGiven⟩, rfl⟩, ⟨steps, rfl, stepsGiven⟩, rfl⟩,
      ⟨component, rfl, componentGiven⟩, rfl⟩, others⟩
    exact ⟨⟨schema, style, steps, component⟩,
      ⟨schemaGiven, styleGiven, stepsGiven, componentGiven,
        fun _ _ member unknown => others _ member unknown⟩, rfl⟩
  · rintro ⟨⟨schema, style, steps, component⟩, described, rfl⟩
    exact ⟨⟨_, _, ⟨_, _, ⟨_, _, ⟨_, ⟨schema, rfl, described.domainSchema⟩, rfl⟩,
      ⟨style, rfl, described.styleSheet⟩, rfl⟩, ⟨steps, rfl, described.maxOptSteps⟩, rfl⟩,
      ⟨component, rfl, described.component⟩, rfl⟩,
      fun _ member unknown => described.others _ _ member unknown⟩

/-! ### Adjustments -/

namespace Adjustment

/-- The domain schema that an adjustment sets, if it sets one. -/
def domainSchema? : Adjustment → Option String
  | domainSchema text => some text
  | _ => none

/-- The style sheet that an adjustment sets, if it sets one. -/
def styleSheet? : Adjustment → Option String
  | styleSheet text => some text
  | _ => none

/-- The budget of steps that an adjustment sets, if it sets one. -/
def maxOptSteps? : Adjustment → Option UInt32
  | maxOptSteps steps => some steps
  | _ => none

/-- The component that an adjustment names, if it names one. -/
def component? : Adjustment → Option String
  | component name => some name
  | _ => none

end Adjustment

/-- The layer of adjustments: the last value for each field that one of them concerns. -/
def Layer.ofAdjustments (adjustments : List Adjustment) : Layer where
  domainSchema := lastWord? Adjustment.domainSchema? adjustments
  styleSheet := lastWord? Adjustment.styleSheet? adjustments
  maxOptSteps := lastWord? Adjustment.maxOptSteps? adjustments
  component := lastWord? Adjustment.component? adjustments

/-- Adjustments, one after the other, are a layer. An adjustment sets its field and leaves the other
ones as they are, so each field has the last word that is said about it. -/
theorem adjustAll_eq_onto (settings : Settings) (adjustments : List Adjustment) :
    settings.adjustAll adjustments = (Layer.ofAdjustments adjustments).onto settings := by
  have schema := view_foldl Settings.domainSchema adjust Adjustment.domainSchema?
    (fun _ adjustment => by cases adjustment <;> rfl) adjustments settings
  have style := view_foldl Settings.styleSheet adjust Adjustment.styleSheet?
    (fun _ adjustment => by cases adjustment <;> rfl) adjustments settings
  have steps := view_foldl Settings.maxOptSteps adjust Adjustment.maxOptSteps?
    (fun _ adjustment => by cases adjustment <;> rfl) adjustments settings
  have component := view_foldl Settings.component adjust Adjustment.component?
    (fun _ adjustment => by cases adjustment <;> rfl) adjustments settings
  rw [Layer.onto, Layer.ofAdjustments, ← schema, ← style, ← steps, ← component]
  rfl

/-- What is loaded from a document and adjusted afterwards has three layers: the adjustments on top
of the document, on top of the standard settings. -/
theorem adjustAll_ofText_eq_ok_iff (text : String) (members : List (String × Draft))
    (reads : Draft.ofText text = (.ofMembers members, true)) (adjustments : List Adjustment)
    (settings : Settings) :
    (adjustAll · adjustments) <$> ofText text = .ok settings ↔
      ∃ file : Layer, file.DescribedBy members ∧
        settings = (Layer.ofAdjustments adjustments).onto (file.onto standard) := by
  simp only [map_eq_ok_iff, ofText_eq_ok_iff text members reads, adjustAll_eq_onto]
  constructor
  · rintro ⟨_, ⟨file, described, rfl⟩, rfl⟩
    exact ⟨file, described, rfl⟩
  · rintro ⟨file, described, rfl⟩
    exact ⟨_, ⟨file, described, rfl⟩, rfl⟩

end PlaneFigure.Settings
