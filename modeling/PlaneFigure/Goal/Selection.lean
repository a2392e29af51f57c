import PlaneFigure.Goal.Basic

/-!
# What the user has selected

A selected location lies in a hypothesis, in the type of a hypothesis, or in the target.
A hypothesis with a selected location is already in the user's view, so it is withheld from
the diagram, and with it nothing else. Only the set of hypotheses that are named matters:
neither positions nor order nor repetition, nor any location in the target.
-/

namespace PlaneFigure

/-- A position inside a term, in the spelling of the user interface. -/
structure Position where
  text : String
deriving DecidableEq

/-- A place in a goal that the user can select. -/
inductive Location where
  | hypothesis (id : HypothesisId)
  | hypothesisType (id : HypothesisId) (position : Position)
  | target
  | targetType (position : Position)
deriving DecidableEq

/-- A place in one of the goals on display. -/
structure GoalLocation where
  goal : GoalId
  location : Location
deriving DecidableEq

/-- The hypothesis in which a location lies. -/
def Location.hypothesis? : Location → Option HypothesisId
  | hypothesis id => some id
  | hypothesisType id _ => some id
  | target => none
  | targetType _ => none

/-- The hypotheses that some location names, once for each time it does. -/
def hiddenBy (locations : List Location) : List HypothesisId :=
  locations.filterMap Location.hypothesis?

/-- The hypotheses that no location names. If nothing is hidden, no hypothesis is looked at. -/
def visible (hypotheses : List Hypothesis) (locations : List Location) : List Hypothesis :=
  let hidden := hiddenBy locations
  if hidden.isEmpty then hypotheses
  else hypotheses.filter fun hypothesis => !hidden.contains hypothesis.id

/-- Looking at every hypothesis makes no difference if nothing is hidden. -/
theorem visible_eq (hypotheses : List Hypothesis) (locations : List Location) :
    visible hypotheses locations =
      hypotheses.filter fun hypothesis => !(hiddenBy locations).contains hypothesis.id := by
  unfold visible
  by_cases nothing : hiddenBy locations = []
  · simp only [nothing, List.isEmpty_nil, if_true]
    exact (List.filter_eq_self.mpr fun _ _ => rfl).symm
  · simp only [List.isEmpty_iff, nothing, if_false]

/-- The visible hypotheses stand in the order of all hypotheses. -/
theorem visible_sublist (hypotheses : List Hypothesis) (locations : List Location) :
    (visible hypotheses locations).Sublist hypotheses := by
  rw [visible_eq]
  exact List.filter_sublist

/-- Hiding by more locations hides in two steps. -/
theorem visible_append (hypotheses : List Hypothesis) (first second : List Location) :
    visible hypotheses (first ++ second) = visible (visible hypotheses first) second := by
  simp [visible_eq, hiddenBy, List.filter_filter, Bool.and_comm]

end PlaneFigure
