import PlaneFigure.Json.Draft
import PlaneFigure.Json.Printing
import PlaneFigure.Text.Quoted

/-!
# Decoding JSON

Values of the library are decoded from JSON in two situations: from a value that has already
been read, and from a text as it is read. Decoders are written once, for anything whose
outermost part can be looked at; the texts of the second situation are represented by drafts.

A decoder reports the first fault in the order of the text. A fault of the text itself is
`malformed` and has no further description; every other fault is one of content. Only the
part of a document that a decoder has looked at can make it fail.
-/

namespace PlaneFigure.Json

/-- The outermost part of a document. -/
inductive View (δ : Type) where
  | null
  | bool (value : Bool)
  | number (value : Number)
  | string (value : String)
  | array (items : List δ)
  | object (members : List (String × δ))
  /-- The document is at fault here. -/
  | unreadable

/-- Documents that can be decoded. -/
class Document (δ : Type) where
  /-- The outermost part. -/
  view : δ → View δ
  /-- Whether the document can be passed over without decoding it. -/
  passable : δ → Bool

instance : Document Json where
  view
    | .null => .null
    | .bool value => .bool value
    | .number value => .number value
    | .string value => .string value
    | .array items => .array items
    | .object members => .object members
  passable _ := true

/-- A member whose key cannot be read is presented as an unreadable one: decoding stops
there, while passing over it looks at its value alone. -/
def Draft.member : Option String × Draft → String × Draft
  | (some key, value) => (key, value)
  | (none, _) => ("", .unreadable)

instance : Document Draft where
  view
    | .null => .null
    | .bool value => .bool value
    | .number (some value) => .number value
    | .number none => .unreadable
    | .string (some value) => .string value
    | .string none => .unreadable
    | .array items => .array items
    | .object members => .object (members.map Draft.member)
    | .unreadable => .unreadable
  passable := Draft.passable

/-- What a decoder looks for. -/
inductive Wanted where
  | string
  /-- An unsigned integer of so many bits. -/
  | unsigned (bits : Nat)
  /-- An unsigned integer of the size of an address. -/
  | size
  | sequence
  | null
  /-- A value with named fields. -/
  | record (name : String)
  /-- The fields of a record as an array. -/
  | recordItems (name : String) (count : Nat)
  /-- A value that names its own kind among its fields. -/
  | tagged (name : String)
  /-- The name of a kind. -/
  | variant
  /-- The fields of one kind of value as an array. -/
  | variantItems (name : String) (count : Nat)
  /-- An array of so many further items. -/
  | items (count : Nat)
  /-- An array of fixed length. -/
  | tuple (count : Nat)
  /-- One of several named alternatives. -/
  | alternative
  /-- The content of an alternative that holds one value. -/
  | singleContent
  /-- The content of an alternative that holds several values. -/
  | tupleContent (name : String)
  /-- The content of an alternative that holds named fields. -/
  | recordContent
  /-- The values of an alternative. -/
  | tupleVariant (name : String)
  /-- The values of an alternative as an array. -/
  | tupleVariantItems (name : String) (count : Nat)

/-- A number of elements. -/
def elementCount (count : Nat) : String :=
  toString count ++ if count = 1 then " element" else " elements"

/-- The description of what was looked for. -/
def Wanted.text : Wanted → String
  | string => "a string"
  | unsigned bits => "u" ++ toString bits
  | size => "usize"
  | sequence => "a sequence"
  | null => "unit"
  | record name => "struct " ++ name
  | recordItems name count => "struct " ++ name ++ " with " ++ elementCount count
  | tagged name => "internally tagged enum " ++ name
  | variant => "variant identifier"
  | variantItems name count => "struct variant " ++ name ++ " with " ++ elementCount count
  | items count => elementCount count ++ " in sequence"
  | tuple count => "a tuple of size " ++ toString count
  | alternative => "string or map"
  | singleContent => "newtype variant"
  | tupleContent _ => "tuple variant"
  | recordContent => "struct variant"
  | tupleVariant name => "tuple variant " ++ name
  | tupleVariantItems name count => "tuple variant " ++ name ++ " with " ++ elementCount count

/-- Why a document is not the JSON of a value. -/
inductive DecodeError where
  /-- The text is no JSON. -/
  | malformed
  /-- Something else is found; `found` describes it. -/
  | wrongType (found : String) (wanted : Wanted)
  /-- An integer is out of range. -/
  | wrongInteger (value : Int) (wanted : Wanted)
  | missingField (name : String)
  | duplicateField (name : String)
  /-- The alternative is none of those that are known. -/
  | unknownVariant (name : String) (known : List String)
  /-- An object does not name exactly one alternative. -/
  | manyVariants
  /-- An array has another number of items. -/
  | wrongLength (length : Nat) (wanted : Wanted)
  /-- An array goes on after all fields of a record. -/
  | surplus (length : Nat)

/-- A name between grave accents. -/
def accented (text : String) : String := "`" ++ text ++ "`"

/-- The account of a fault that is shown to users. It does not say where in a text the fault is,
and nothing more about faults of the text itself. -/
def DecodeError.message : DecodeError → String
  | malformed => "malformed text"
  | wrongType found wanted => "invalid type: " ++ found ++ ", expected " ++ wanted.text
  | wrongInteger value wanted =>
    "invalid value: integer " ++ accented (toString value) ++ ", expected " ++ wanted.text
  | missingField name => "missing field " ++ accented name
  | duplicateField name => "duplicate field " ++ accented name
  | unknownVariant name known =>
    "unknown variant " ++ accented name ++ ", expected one of " ++
      ", ".intercalate (known.map accented)
  | manyVariants => "invalid value: map, expected map with a single key"
  | wrongLength length wanted =>
    "invalid length " ++ toString length ++ ", expected " ++ wanted.text
  | surplus length =>
    "invalid length " ++ toString length ++ ", expected fewer elements in array"

variable {δ : Type}

/-- How a message describes what was found. -/
def View.description : View δ → String
  | null => "null"
  | bool value => "boolean " ++ accented (if value then "true" else "false")
  | number (.integer value) => "integer " ++ accented (toString value)
  | number (.real value) => "floating point " ++ accented value.text
  | string value => "string " ++ Text.quoted value
  | array _ => "sequence"
  | object _ => "map"
  | unreadable => "nothing"

/-- The fault of finding something else than what is wanted. -/
def View.mismatch (view : View δ) (wanted : Wanted) : DecodeError :=
  match view with
  | unreadable => .malformed
  | found => .wrongType found.description wanted

/-- The fault of an alternative whose content, if there is any, is not what is wanted. An array
does for several values, unless there are none in it. -/
def View.misfit (content : Option (View δ)) (wanted : Wanted) : DecodeError :=
  match content, wanted with
  | none, wanted => .wrongType "unit variant" wanted
  | some (.array _), .tupleContent name =>
    .wrongType (null : View δ).description (.tupleVariant name)
  | some found, wanted => found.mismatch wanted

/-- The fault of an alternative that cannot be decoded, given what each known one holds. -/
def View.refusal (forms : List (String × Wanted)) (name : String) (content : Option (View δ)) :
    DecodeError :=
  match forms.lookup name with
  | some wanted => misfit content wanted
  | none => .unknownVariant name (forms.map Prod.fst)

/-- A way to decode documents of some form. -/
abbrev Decoder (δ α : Type) := δ → Except DecodeError α

/-- Decode a text. The part of it that is decoded comes first, so a fault of content wins
over whatever follows. An array that is too long for a record is a fault of the text. -/
def decodeText {α : Type} (decoder : Decoder Draft α) (text : String) :
    Except DecodeError α :=
  let (draft, whole) := Draft.ofText text
  match decoder draft with
  | .error (.surplus _) => .error .malformed
  | .error fault => .error fault
  | .ok value => if whole then .ok value else .error .malformed

namespace Decoder

variable {α : Type} [Document δ]

/-- Decode a string. -/
def string : Decoder δ String := fun document =>
  match Document.view document with
  | .string value => .ok value
  | found => .error (found.mismatch .string)

/-- Decode an unsigned integer of 32 bits. Numbers with a point or an exponent are none. -/
def word32 : Decoder δ UInt32 := fun document =>
  match Document.view document with
  | .number (.integer value) =>
    if 0 ≤ value ∧ value < UInt32.size then .ok (.ofNat value.toNat)
    else .error (.wrongInteger value (.unsigned 32))
  | found => .error (found.mismatch (.unsigned 32))

/-- Decode a natural number. No integer that is read exceeds 64 bits. -/
def nat : Decoder δ Nat := fun document =>
  match Document.view document with
  | .number (.integer value) =>
    if 0 ≤ value then .ok value.toNat else .error (.wrongInteger value .size)
  | found => .error (found.mismatch .size)

/-- Decode an array, item by item. -/
def list (item : Decoder δ α) : Decoder δ (List α) := fun document =>
  match Document.view document with
  | .array items => items.mapM item
  | found => .error (found.mismatch .sequence)

/-- Decode a value that may be null. -/
def nullable (value : Decoder δ α) : Decoder δ (Option α) := fun document =>
  match Document.view document with
  | .null => .ok none
  | _ => some <$> value document

/-- Decode a value that names its alternative: a string, or an object whose only key is the
name and whose only value is the content of the alternative. Faults do not name the type of the
value. -/
def choice (pick : String → Option δ → Except DecodeError α) : Decoder δ α := fun document =>
  match Document.view document with
  | .string key => pick key none
  | .object [(key, content)] => pick key (some content)
  | .object _ => .error .manyVariants
  | found => .error (found.mismatch .alternative)

/-- Refuse a document, given the alternatives and what each of them holds. -/
def refuse (forms : List (String × Wanted)) : Decoder δ α :=
  choice fun name content => .error (View.refusal forms name (content.map Document.view))

/-- Decode an alternative without content, whose content may be written as null. -/
def name (known : List (String × α)) : Decoder δ α :=
  choice fun key content =>
    match known.lookup key with
    | none => .error (.unknownVariant key (known.map Prod.fst))
    | some value =>
      match content.map Document.view with
      | none => .ok value
      | some .null => .ok value
      | some found => .error (found.mismatch .null)

end Decoder

end PlaneFigure.Json
