import PlaneFigure.Diagram.Program
import PlaneFigure.Diagram.Registry
import PlaneFigure.Drawing.Basic
import PlaneFigure.Wire.Markup
import PlaneFigure.Wire.Term

/-!
# The wire forms of diagrams

Kinds and shapes are written as their names, a fact as an object whose only member holds the
operands under the name of the shape, and a line as an alternative of its own. The parts of a
declaration must be members of an object.
-/

namespace PlaneFigure

open Json (DecodeError Decoder Document Record View)

instance : Wire Kind := Wire.enumeration Kind.name [.point, .line, .circle]

instance : Wire Shape := Wire.enumeration Shape.name Shape.all

namespace Fact

/-- The wire form of a fact. -/
def toJson (fact : Fact String) : Json :=
  .object [(fact.shape.name, .array (fact.operands.map .string))]

/-- The name of a shape in messages. -/
def title (shape : Shape) : String := "Fact::" ++ shape.name

/-- The fact of a shape with operands in wire form. Surplus operands are not decoded. -/
def ofItems (shape : Shape) (items : List Json) : Except DecodeError (Fact String) :=
  match (items.take shape.arity).mapM Decoder.string with
  | .error fault => .error fault
  | .ok operands =>
    match ofOperands? shape operands with
    | none => .error
        (.wrongLength items.length (.tupleVariantItems (title shape) shape.arity))
    | some fact =>
      if shape.arity < items.length then .error (.surplus items.length) else .ok fact

/-- The shapes by name, in the order in which messages list them. -/
def shapesByName : List (String × Shape) :=
  [.between, .onLine, .onCircle, .centerCircle].map fun shape => (shape.name, shape)

/-- The fact of a wire form. -/
def ofJson : Decoder Json (Fact String) :=
  Decoder.choice fun name content =>
    match shapesByName.lookup name with
    | none => .error (.unknownVariant name (shapesByName.map Prod.fst))
    | some shape =>
      match content.map Document.view with
      | some (.array (item :: items)) => ofItems shape (item :: items)
      | content => .error (View.misfit content (.tupleContent (title shape)))

instance : Wire (Fact String) := ⟨toJson, ofJson⟩

end Fact

namespace Line

/-- The wire form of a line. -/
def toJson : Line → Json
  | autoLabel => .string "AutoLabel"
  | declare kind key =>
    .object [("Declare", .object (Wire.member "kind" kind ++ Wire.member "key" key))]
  | fact stated => .object (Wire.member "Fact" stated)

/-- The parts of a declaration. -/
def declaration : Record Json Line :=
  declare <$> Wire.field Kind "kind" <*> Wire.field String "key"

/-- The kinds of lines with what they hold. -/
def forms : List (String × Json.Wanted) :=
  [("AutoLabel", .null), ("Declare", .recordContent), ("Fact", .singleContent)]

/-- The line of a wire form. -/
def ofJson : Decoder Json Line :=
  Decoder.choice fun name content =>
    match name, content with
    | "AutoLabel", none => .ok autoLabel
    | "AutoLabel", some .null => .ok autoLabel
    | "Declare", some (.object members) => declaration.ofMembers members
    | "Fact", some content => fact <$> Wire.decode content
    | name, content => .error (View.refusal forms name (content.map Document.view))

instance : Wire Line := ⟨toJson, ofJson⟩

end Line

instance : Wire Program where
  encode program := .object (Wire.member "lines" program.lines)
  decode := (Program.mk <$> Wire.field (List Line) "lines").decoder "DiagramProgram"

instance : Wire Entity where
  encode entity := .object (Wire.member "kind" entity.kind ++ Wire.member "key" entity.key ++
    Wire.member "backing" entity.backing ++ Wire.member "order" entity.order)
  decode := Record.decoder
    (Entity.mk <$> Wire.field Kind "kind" <*> Wire.field String "key"
      <*> Wire.field Term "backing" <*> Wire.field Nat "order")
    "Entity"

instance : Wire Label where
  encode label := .object (Wire.member "key" label.key ++ Wire.member "kind" label.kind ++
    Wire.member "label" label.markup)
  decode := Record.decoder
    (Label.mk <$> Wire.field String "key" <*> Wire.field Kind "kind"
      <*> Wire.field Markup "label")
    "EntityLabel"

end PlaneFigure
