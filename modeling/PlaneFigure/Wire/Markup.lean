import PlaneFigure.Markup
import PlaneFigure.Wire.Basic

/-!
# The wire form of markup

A piece of markup is an object with one member, named for what it is. Elements and
components hold their parts as members; unlike records they cannot be written as arrays. An
attribute is an array of its key and its value. Attribute values and properties are passed on
as they are.
-/

namespace PlaneFigure.Markup

open Json (DecodeError Document Fault Record)

/-- The wire form of an attribute with its key. -/
def attributeJson (entry : String × Json) : Json := .array [.string entry.1, entry.2]

mutual

/-- The wire form of markup. -/
def toJson : Markup → Json
  | element tag attributes children =>
    .object [("element", .object [("tag", .string tag),
      ("attrs", .array (attributes.map attributeJson)),
      ("children", .array (toJsons children))])]
  | text content => .object [("text", .string content)]
  | component name properties =>
    .object [("component", .object [("name", .string name), ("props", properties)])]

/-- The wire forms of several pieces of markup. -/
def toJsons : List Markup → List Json
  | [] => []
  | child :: rest => child.toJson :: toJsons rest

end

/-- The parts of an attribute, which are the items of an array. -/
def attributeParts : Record Json (String × Json) :=
  Prod.mk <$> .required "key" Json.Decoder.string <*> .required "value" .ok

/-- The attribute of a wire form. -/
def attributeOf : Json.Decoder Json (String × Json) := fun document =>
  match Document.view document with
  | .array items => attributeParts.ofItems (.tuple 2) (.surplus items.length) items
  | found => .error (found.mismatch (.tuple 2))

/-- The parts of an element apart from its children. -/
def elementParts : Record Json (List Markup → Markup) :=
  element <$> .required "tag" Json.Decoder.string
    <*> .required "attrs" (Json.Decoder.list attributeOf)

/-- The parts of a component. -/
def componentParts : Record Json Markup :=
  component <$> .required "name" Json.Decoder.string <*> .required "props" .ok

/-- The kinds of markup with what they hold. -/
def forms : List (String × Json.Wanted) :=
  [("element", .recordContent), ("text", .singleContent), ("component", .recordContent)]

mutual

/-- The markup of a wire form. -/
def ofJson : Json.Decoder Json Markup
  | .object [("element", .object members)] =>
    match Record.both (elementParts.read .missingField members) (childrenOf 0 members) with
    | .ok markup => .ok markup
    | .error fault => .error fault.cause
  | .object [("text", content)] => text <$> Json.Decoder.string content
  | .object [("component", .object members)] => componentParts.ofMembers members
  | document => Json.Decoder.refuse forms document

/-- The markup of several wire forms. -/
def ofJsons : List Json → Except DecodeError (List Markup)
  | [] => .ok []
  | child :: rest =>
    match ofJson child, ofJsons rest with
    | .ok child, .ok children => .ok (child :: children)
    | .error fault, _ => .error fault
    | .ok _, .error fault => .error fault

/-- The children of an element, from the first member that holds them. The place of a fault is
counted from a start. -/
def childrenOf : Nat → List (String × Json) → Except Fault (List Markup)
  | place, [] => .error ⟨place, .missingField "children"⟩
  | place, (key, value) :: rest =>
    if key = "children" then
      match value with
      | .array children =>
        match ofJsons children with
        | .ok children => .ok children
        | .error cause => .error ⟨place, cause⟩
      | document => .error ⟨place, (Document.view document).mismatch .sequence⟩
    else childrenOf (place + 1) rest

end

instance : Wire Markup := ⟨toJson, ofJson⟩

end PlaneFigure.Markup
