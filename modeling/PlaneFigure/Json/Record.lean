import PlaneFigure.Json.Decoding

/-!
# Decoding records

A record is written as an object with a member for each of its fields, or as an array of its
fields in the order of their declaration. In an object other members are passed over, and no
field may occur twice. A field that has a default may be left out; in an array only fields
at the end can be left out.

The description of a record puts together the descriptions of its fields. Each field is
decoded by itself and knows the place of its fault among the members; of several faults the
one at the earliest place counts, and missing fields come after every member in the order of
their declaration.
-/

namespace PlaneFigure.Json

/-- A fault with its place: the number of members before it. -/
structure Fault where
  place : Nat
  cause : DecodeError

/-- The fault at the earlier place, the first of two at the same place. -/
def Fault.earlier (first second : Fault) : Fault :=
  if second.place < first.place then second else first

/-- How a record is put together from members. What is said about a missing field depends on
the form of the record. -/
structure Record (δ α : Type) where
  /-- The names of the fields in the order of their declaration. -/
  names : List String
  read : (String → DecodeError) → List (String × δ) → Except Fault α

namespace Record

variable {δ α β : Type}

/-- The values of the members with a key, each with its place, counted from a start. -/
def occurrences (name : String) : Nat → List (String × δ) → List (Nat × δ)
  | _, [] => []
  | place, (key, value) :: rest =>
    if key = name then (place, value) :: occurrences name (place + 1) rest
    else occurrences name (place + 1) rest

/-- A field, with the value that stands for it where it is left out. -/
def field (name : String) (decoder : Decoder δ α) (absent : Option α) : Record δ α where
  names := [name]
  read missing members :=
    match occurrences name 0 members with
    | [] =>
      match absent with
      | some value => .ok value
      | none => .error ⟨members.length, missing name⟩
    | (place, document) :: further =>
      match decoder document, further with
      | .error cause, _ => .error ⟨place, cause⟩
      | .ok value, [] => .ok value
      | .ok _, (place, _) :: _ => .error ⟨place, .duplicateField name⟩

/-- A field that must be there. -/
def required (name : String) (decoder : Decoder δ α) : Record δ α := field name decoder none

/-- A field that can be left out. -/
def withDefault (name : String) (decoder : Decoder δ α) (value : α) : Record δ α :=
  field name decoder (some value)

/-- A field that can be left out or null. -/
def optional [Document δ] (name : String) (decoder : Decoder δ α) : Record δ (Option α) :=
  withDefault name decoder.nullable none

/-- The results of two descriptions, or the earlier of their faults. -/
def both (first : Except Fault (α → β)) (second : Except Fault α) : Except Fault β :=
  match first, second with
  | .ok function, .ok value => .ok (function value)
  | .error fault, .ok _ => .error fault
  | .ok _, .error fault => .error fault
  | .error left, .error right => .error (left.earlier right)

instance : Applicative (Record δ) where
  pure value := ⟨[], fun _ _ => .ok value⟩
  seq first second :=
    let second := second ()
    ⟨first.names ++ second.names,
      fun missing members => both (first.read missing members) (second.read missing members)⟩

/-- The place of the first member that belongs to no field and cannot be passed over. -/
def obstacle? [Document δ] (names : List String) : Nat → List (String × δ) → Option Nat
  | _, [] => none
  | place, (key, value) :: rest =>
    if names.contains key || Document.passable value then obstacle? names (place + 1) rest
    else some place

/-- Decode the members of an object. -/
def ofMembers [Document δ] (record : Record δ α) (members : List (String × δ)) :
    Except DecodeError α :=
  match record.read .missingField members, obstacle? record.names 0 members with
  | .ok value, none => .ok value
  | .error fault, none => .error fault.cause
  | .ok _, some _ => .error .malformed
  | .error fault, some place => .error (fault.earlier ⟨place, .malformed⟩).cause

/-- Decode the items of an array. They are the members of the fields in their order; what is
wanted describes the array, and its length is at fault where a field is missing. -/
def ofItems (record : Record δ α) (wanted : Wanted) (surplus : DecodeError) (items : List δ) :
    Except DecodeError α :=
  let missing field := DecodeError.wrongLength (record.names.idxOf field) wanted
  match record.read missing (record.names.zip items) with
  | .error fault => .error fault.cause
  | .ok value => if record.names.length < items.length then .error surplus else .ok value

/-- Decode a record with a name in either form. -/
def decoder [Document δ] (record : Record δ α) (name : String) : Decoder δ α := fun document =>
  match Document.view document with
  | .object members => record.ofMembers members
  | .array items =>
    record.ofItems (.recordItems name record.names.length) (.surplus items.length) items
  | found => .error (found.mismatch (.record name))

end Record

end PlaneFigure.Json
