import PlaneFigure.Term.Basic
import PlaneFigure.Wire.Basic

/-!
# The wire form of terms

A constant or a variable is an object whose only member gives its name; an application is an
object whose only member holds the function and the argument.
-/

namespace PlaneFigure.Term

/-- The wire form of a term. -/
def toJson : Term → Json
  | const name => .object [("const", .string name)]
  | var name => .object [("var", .string name)]
  | app function argument => .object [("app", .array [function.toJson, argument.toJson])]

/-- The name of applications in messages. -/
def appTitle : String := "Expr::App"

/-- The kinds of terms with what they hold. -/
def forms : List (String × Json.Wanted) :=
  [("const", .singleContent), ("var", .singleContent), ("app", .tupleContent appTitle)]

/-- The term of a wire form. Where an application has too few or too many items, the terms among
its items are decoded before this is noticed. -/
def ofJson : Json.Decoder Json Term
  | .object [("const", name)] => const <$> Json.Decoder.string name
  | .object [("var", name)] => var <$> Json.Decoder.string name
  | .object [("app", .array [function])] =>
    match ofJson function with
    | .error fault => .error fault
    | .ok _ => .error (.wrongLength 1 (.tupleVariantItems appTitle 2))
  | .object [("app", .array (function :: argument :: surplus))] =>
    match ofJson function with
    | .error fault => .error fault
    | .ok function =>
      match ofJson argument with
      | .error fault => .error fault
      | .ok argument =>
        if surplus.isEmpty then .ok (app function argument)
        else .error (.surplus (2 + surplus.length))
  | document => Json.Decoder.refuse forms document

instance : Wire Term := ⟨toJson, ofJson⟩

/-- The wire form of a term determines it. -/
theorem ofJson_toJson (term : Term) : ofJson term.toJson = .ok term := by
  induction term with
  | const name => rfl
  | var name => rfl
  | app function argument functionHypothesis argumentHypothesis =>
    simp [toJson, ofJson, functionHypothesis, argumentHypothesis]

end PlaneFigure.Term
