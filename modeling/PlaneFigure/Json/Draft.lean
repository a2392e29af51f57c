import PlaneFigure.Json.Token

/-!
# JSON documents as far as they can be read

A draft is what a JSON text says up to its first fault. Reading does not stop with an error:
where the text cannot be continued the draft has an unreadable part, and the arrays and
objects around it end there. A reader that knows what it is looking for can therefore report
a fault of its own that comes earlier in the text.

An object whose text breaks off after a member ends with a member that has neither key nor
value; an array that breaks off ends with an unreadable item.
-/

namespace PlaneFigure.Json

/-- A JSON document up to its first fault. -/
inductive Draft where
  | null
  | bool (value : Bool)
  /-- A number, without a value if it is out of range. -/
  | number (value : Option Number)
  /-- A string, without a value if it escapes a lone surrogate. -/
  | string (value : Option String)
  | array (items : List Draft)
  /-- The members of an object; a key may lack a value as a string may. -/
  | object (members : List (Option String × Draft))
  /-- The text has no value here. -/
  | unreadable

namespace Draft

/-- An array or object whose end has not been reached, with what precedes the part that is
being read, the latest first. -/
inductive Frame where
  | items (before : List Draft)
  | members (before : List (Option String × Draft)) (key : Option String)

/-- What has to come next in a text. -/
inductive Expected where
  /-- A value. -/
  | value
  /-- The first item of an array, or its end. -/
  | firstItem
  /-- The first key of an object, or its end. -/
  | firstKey
  /-- Another key, after the members so far. -/
  | key (before : List (Option String × Draft))
  /-- The colon after a key. -/
  | colon
  /-- What follows a value: a comma or an end. -/
  | following (value : Draft)

/-- End every frame with the part that is being read. -/
def endAll : List Frame → Draft → Draft
  | [], part => part
  | .items before :: outer, part => endAll outer (.array (part :: before).reverse)
  | .members before key :: outer, part => endAll outer (.object ((key, part) :: before).reverse)

/-- The draft of a text that cannot be continued. -/
def breakOff : List Frame → Expected → Draft
  | .items before :: outer, .following value =>
    endAll (.items (value :: before) :: outer) .unreadable
  | .members before key :: outer, .following value =>
    endAll (.members ((key, value) :: before) none :: outer) .unreadable
  | [], .following value => value
  | frames, .firstKey => endAll (.members [] none :: frames) .unreadable
  | frames, .key before => endAll (.members before none :: frames) .unreadable
  | frames, _ => endAll frames .unreadable

/-- The draft of a value that is a single token. -/
def ofToken? : Token → Option Draft
  | .null => some .null
  | .bool value => some (.bool value)
  | .number value => some (.number value)
  | .string value => some (.string value)
  | _ => none

/-- How a token continues a text: the frames and the expectation after it. -/
def advance? : List Frame → Expected → Token → Option (List Frame × Expected)
  | .items before :: outer, .following value, .comma =>
    some (.items (value :: before) :: outer, .value)
  | .items before :: outer, .following value, .closeArray =>
    some (outer, .following (.array (value :: before).reverse))
  | .members before key :: outer, .following value, .comma =>
    some (outer, .key ((key, value) :: before))
  | .members before key :: outer, .following value, .closeObject =>
    some (outer, .following (.object ((key, value) :: before).reverse))
  | _, .following _, _ => none
  | frames, .firstKey, .string key => some (.members [] key :: frames, .colon)
  | frames, .firstKey, .closeObject => some (frames, .following (.object []))
  | _, .firstKey, _ => none
  | frames, .key before, .string key => some (.members before key :: frames, .colon)
  | _, .key _, _ => none
  | frames, .colon, .colon => some (frames, .value)
  | _, .colon, _ => none
  | .items _ :: outer, .firstItem, .closeArray => some (outer, .following (.array []))
  | frames, _, .openArray => some (.items [] :: frames, .firstItem)
  | frames, _, .openObject => some (frames, .firstKey)
  | frames, _, token => (ofToken? token).map fun value => (frames, .following value)

/-- Read tokens in the midst of a text. Also tells whether the whole text belongs to the
draft. -/
def ofTokens : List Frame → Expected → List Token → Draft × Bool
  | [], .following value, tokens => (value, tokens.isEmpty)
  | frames, expected, [] => (breakOff frames expected, true)
  | frames, expected, token :: rest =>
    match advance? frames expected token with
    | none => (breakOff frames expected, true)
    | some (frames, expected) => ofTokens frames expected rest

/-- The draft of a text, and whether nothing follows it. -/
def ofText (text : String) : Draft × Bool := ofTokens [] .value (tokens text)

mutual

/-- Whether a part of a document can be passed over without reading it. Numbers out of range
and lone surrogates are no obstacle then. -/
def passable : Draft → Bool
  | array items => passableItems items
  | object members => passableMembers members
  | unreadable => false
  | _ => true

/-- Whether all items can be passed over. -/
def passableItems : List Draft → Bool
  | [] => true
  | item :: rest => item.passable && passableItems rest

/-- Whether all members can be passed over. -/
def passableMembers : List (Option String × Draft) → Bool
  | [] => true
  | (_, value) :: rest => value.passable && passableMembers rest

end

mutual

/-- The value of a document without faults, in canonical form. -/
def value? : Draft → Option Json
  | null => some .null
  | bool value => some (.bool value)
  | number value => value.map .number
  | string value => value.map .string
  | array items => (itemValues? items).map .array
  | object members => (memberValues? members).map fun members => .object (sortMembers members)
  | unreadable => none

/-- The values of items without faults. -/
def itemValues? : List Draft → Option (List Json)
  | [] => some []
  | item :: rest =>
    match item.value?, itemValues? rest with
    | some value, some values => some (value :: values)
    | _, _ => none

/-- The values of members without faults. -/
def memberValues? : List (Option String × Draft) → Option (List (String × Json))
  | [] => some []
  | (key, value) :: rest =>
    match key, value.value?, memberValues? rest with
    | some key, some value, some members => some ((key, value) :: members)
    | _, _, _ => none

end

end Draft

/-- The value of a JSON text in canonical form, if the text is well formed. -/
def read? (text : String) : Option Json :=
  match Draft.ofText text with
  | (draft, true) => draft.value?
  | (_, false) => none

end PlaneFigure.Json
