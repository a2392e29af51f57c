import PlaneFigure.Json.Record

/-!
# Wire forms

Values that are exchanged with the user interface have a wire form, a JSON value. Encoding
has one result; decoding is more tolerant and accepts every form that the decoders of records
and alternatives do. Identifiers and other texts stand for themselves.
-/

namespace PlaneFigure

/-- Values with a wire form. -/
class Wire (α : Type) where
  encode : α → Json
  decode : Json.Decoder Json α

namespace Wire

instance : Wire String := ⟨.string, Json.Decoder.string⟩

instance : Wire UInt32 := ⟨fun value => .number (.integer value.toNat), Json.Decoder.word32⟩

instance : Wire Nat := ⟨fun value => .number (.integer value), Json.Decoder.nat⟩

instance : Wire Json := ⟨id, .ok⟩

/-- The wire form of an enumeration: the names of its values. -/
@[reducible]
def enumeration {α : Type} (nameOf : α → String) (values : List α) : Wire α :=
  ⟨fun value => .string (nameOf value),
    Json.Decoder.name (values.map fun value => (nameOf value, value))⟩

variable {α : Type} [Wire α]

instance : Wire (List α) :=
  ⟨fun values => .array (values.map encode), Json.Decoder.list decode⟩

/-- The wire form of a type that wraps another one. -/
@[reducible]
def wrapper {β : Type} (wrap : α → β) (unwrap : β → α) : Wire β :=
  ⟨fun value => encode (unwrap value), fun document => wrap <$> decode document⟩

/-- A member of an object. -/
def member (name : String) (value : α) : List (String × Json) := [(name, encode value)]

/-- A member of an object, left out if there is no value. -/
def optionalMember (name : String) (value : Option α) : List (String × Json) :=
  (value.map fun value => (name, encode value)).toList

/-- A required field. -/
def field (α : Type) [Wire α] (name : String) : Json.Record Json α :=
  .required name decode

/-- A field without value if it is left out or null. -/
def optionalField (α : Type) [Wire α] (name : String) : Json.Record Json (Option α) :=
  .optional name decode

end Wire

end PlaneFigure
