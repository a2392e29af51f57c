import PlaneFigure.Term.Basic

/-!
# Displaying terms

The objects of a diagram are identified by the texts their terms are displayed as, so two
terms that are displayed alike are the same object. How terms are displayed is a parameter
of everything that draws; the plain display joins the names of a term by underscores and
forgets its grouping.

The plain display fails on a term whose arguments are nested too deeply. Terms read from
text never are, because their parentheses would be.
-/

namespace PlaneFigure.Term

/-- A term cannot be displayed; `shown` stands for the term in the message. -/
structure Undisplayable where
  shown : String
  reason : String
deriving DecidableEq

/-- The account of a failed display that is shown to users. -/
def Undisplayable.message (failure : Undisplayable) : String :=
  "cannot display term " ++ failure.shown ++ ": " ++ failure.reason

/-- A way to display terms. -/
abbrev Printer := Term → Except Undisplayable String

/-- The reason for which the plain display gives up. -/
def tooDeepToDisplay : String := "nested deeper than " ++ toString maxDepth

/-- Write a term, nested in so many arguments, behind the text written so far. The function
of an application is as deep as the application, its argument one deeper, so along the spine of
a term only the outermost application can be too deep. A failure shows what was written up to
it. -/
def writeOnto (depth : Nat) (written : String) : Printer
  | const name => .ok (written ++ name)
  | var name => .ok (written ++ name)
  | app function argument =>
    if maxDepth < depth then .error ⟨written, tooDeepToDisplay⟩
    else
      match writeOnto depth written function with
      | .error failure => .error failure
      | .ok text => writeOnto (depth + 1) (text ++ "_") argument

/-- The plain display: the names of a term from left to right, joined by underscores. -/
def plain : Printer := writeOnto 0 ""

/-- The plain display with a mark behind it. -/
def marked (mark : String) : Printer := fun term => (· ++ mark) <$> plain term

/-- The display that shows every term alike. -/
def constantly (text : String) : Printer := fun _ => .ok text

/-- The plain display of every term but one variable. -/
def refusing (name : String) : Printer := fun term =>
  if term = var name then .error ⟨name, "refused"⟩ else plain term

end PlaneFigure.Term
