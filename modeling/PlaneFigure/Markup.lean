import PlaneFigure.Json.Value

/-!
# Markup

What the user interface shows: elements with attributes and children, plain text, and
components of the interface that are given properties. Attributes and properties are JSON
values that nothing here looks into.
-/

namespace PlaneFigure

/-- A piece of markup. -/
inductive Markup where
  | element (tag : String) (attributes : List (String × Json)) (children : List Markup)
  | text (content : String)
  | component (name : String) (properties : Json)

namespace Markup

/-- Append an attribute to an element. Nothing else has attributes. -/
def withAttribute (key : String) (value : Json) : Markup → Markup
  | element tag attributes children => element tag (attributes ++ [(key, value)]) children
  | markup => markup

mutual

/-- The text inside markup, in reading order. What a component shows is not known. -/
def textContent : Markup → String
  | element _ _ children => textContents children
  | text content => content
  | component _ _ => ""

/-- The texts of several pieces of markup, one after the other. -/
def textContents : List Markup → String
  | [] => ""
  | child :: rest => child.textContent ++ textContents rest

end

end Markup

end PlaneFigure
