import PlaneFigure.Number.Literal

/-!
# JSON values

Objects are lists of members in the order in which they were given. A value in canonical
form has the members of all its objects sorted by key, with one member for each key; where a
key was repeated, the last member counts.
-/

namespace PlaneFigure

/-- A JSON value. -/
inductive Json where
  | null
  | bool (value : Bool)
  | number (value : Number)
  | string (value : String)
  | array (items : List Json)
  | object (members : List (String × Json))

namespace Json

/-- Put a member in its place among members sorted by key, instead of a member with the same
key. -/
def insertMember {α : Type} (key : String) (value : α) :
    List (String × α) → List (String × α)
  | [] => [(key, value)]
  | (other, kept) :: rest =>
    if key < other then (key, value) :: (other, kept) :: rest
    else if key = other then (key, value) :: rest
    else (other, kept) :: insertMember key value rest

/-- Sort members by key, the last member of each key alone. -/
def sortMembers {α : Type} (members : List (String × α)) : List (String × α) :=
  members.foldl (fun sorted member => insertMember member.1 member.2 sorted) []

mutual

/-- The canonical form of a value. -/
def canonical : Json → Json
  | array items => array (canonicalItems items)
  | object members => object (sortMembers (canonicalMembers members))
  | value => value

/-- The canonical forms of the items of an array. -/
def canonicalItems : List Json → List Json
  | [] => []
  | item :: rest => item.canonical :: canonicalItems rest

/-- The members of an object with their values in canonical form. -/
def canonicalMembers : List (String × Json) → List (String × Json)
  | [] => []
  | (key, value) :: rest => (key, value.canonical) :: canonicalMembers rest

end

end Json

end PlaneFigure
