/-!
# Terms of a proof state

Only the applicative skeleton of a term matters here: global constants such as the names of
predicates, local variables, and curried application. Following the functions of nested
applications to the left decomposes a term into a head and its arguments; applying a
constant to arguments is the way back.

Terms carry no types, and nothing here checks that an application makes sense.
-/

namespace PlaneFigure

/-- A term up to everything but names and application. -/
inductive Term where
  | const (name : String)
  | var (name : String)
  | app (function argument : Term)
deriving DecidableEq

namespace Term

/-- How deeply parentheses may be nested in the text of a term, and how deeply arguments
may be nested in a term that is displayed. -/
def maxDepth : Nat := 128

/-- A function applied to several arguments, the first one innermost. -/
def applyTo (function : Term) (args : List Term) : Term := args.foldl app function

/-- A constant applied to arguments in order. -/
def apply (head : String) (args : List Term) : Term := applyTo (const head) args

/-- What remains at the left end once every argument is taken off. -/
def head : Term → Term
  | app function _ => function.head
  | term => term

/-- The arguments of the head in order, followed by arguments already taken off. -/
def argsBefore : Term → List Term → List Term
  | app function argument, later => function.argsBefore (argument :: later)
  | _, later => later

/-- The arguments that the head is applied to, in order. -/
def args (term : Term) : List Term := term.argsBefore []

/-- How many arguments the head is applied to. -/
def arity : Term → Nat
  | app function _ => function.arity + 1
  | _ => 0

/-- The name of the head, if the head is a constant. -/
def headConst? (term : Term) : Option String :=
  match term.head with
  | const name => some name
  | _ => none

/-- Arguments already taken off stay behind those still to come. -/
theorem argsBefore_eq (term : Term) (later : List Term) :
    term.argsBefore later = term.args ++ later := by
  induction term generalizing later with
  | const name => rfl
  | var name => rfl
  | app function argument functionHypothesis =>
    simp only [args, argsBefore]
    rw [functionHypothesis, functionHypothesis [argument], List.append_assoc]
    rfl

/-- The last argument is that of the outermost application. -/
theorem args_app (function argument : Term) :
    (app function argument).args = function.args ++ [argument] :=
  argsBefore_eq function [argument]

/-- The arity counts the arguments. -/
theorem length_args (term : Term) : term.args.length = term.arity := by
  induction term with
  | const name => rfl
  | var name => rfl
  | app function argument functionHypothesis =>
    simp [args_app, arity, functionHypothesis]

/-- A term is its head applied to its arguments. -/
theorem applyTo_head_args (term : Term) : applyTo term.head term.args = term := by
  induction term with
  | const name => rfl
  | var name => rfl
  | app function argument functionHypothesis =>
    simp only [applyTo] at functionHypothesis
    simp [applyTo, args_app, head, functionHypothesis]

end Term

end PlaneFigure
