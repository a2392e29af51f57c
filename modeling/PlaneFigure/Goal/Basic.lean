import PlaneFigure.Table
import PlaneFigure.Term.Basic

/-!
# Goals and the states of a proof

A goal is a list of named, typed hypotheses with an optional target. A snapshot holds the
goals of one moment of a proof, and the contexts of a session hold the snapshots by
reference. A later goal or snapshot replaces an earlier one with the same name: snapshots
are replaced as a whole, their goals are never merged.
-/

namespace PlaneFigure

/-- The identity of a goal. -/
structure GoalId where
  text : String
deriving DecidableEq

/-- The identity of a hypothesis. -/
structure HypothesisId where
  text : String
deriving DecidableEq

/-- A reference to a snapshot. -/
structure ContextRef where
  text : String
deriving DecidableEq

/-- A named assumption of a goal. Several hypotheses may share an identity. -/
structure Hypothesis where
  id : HypothesisId
  name : String
  type : Term
deriving DecidableEq

/-- A goal as it is shown to the user. -/
structure Goal where
  id : GoalId
  hypotheses : List Hypothesis
  target : Option Term
deriving DecidableEq

/-- The goals of one moment of a proof. -/
structure Snapshot where
  goals : Table GoalId Goal

namespace Snapshot

/-- The snapshot of goals that are given one after the other. A goal replaces every earlier one
with its identity. -/
def ofGoals (goals : List Goal) : Snapshot :=
  ⟨goals.foldl (fun table goal => table.insert goal.id goal) .empty⟩

/-- The goal with an identity. -/
def goal? (snapshot : Snapshot) (id : GoalId) : Option Goal := snapshot.goals.get? id

end Snapshot

/-- The snapshots of a session by reference. -/
structure Contexts where
  snapshots : Table ContextRef Snapshot

namespace Contexts

/-- The session without snapshots. -/
def empty : Contexts := ⟨.empty⟩

/-- Give a snapshot for a reference, which replaces every earlier one. -/
def insert (contexts : Contexts) (reference : ContextRef) (snapshot : Snapshot) : Contexts :=
  ⟨contexts.snapshots.insert reference snapshot⟩

/-- The session in which the goals of snapshots are given one snapshot after the other. -/
def ofGoals (given : List (ContextRef × List Goal)) : Contexts :=
  given.foldl (fun contexts snapshot => contexts.insert snapshot.1 (.ofGoals snapshot.2)) .empty

/-- The snapshot given for a reference. -/
def snapshot? (contexts : Contexts) (reference : ContextRef) : Option Snapshot :=
  contexts.snapshots.get? reference

/-- The goal with an identity in the snapshot given for a reference. -/
def goal? (contexts : Contexts) (reference : ContextRef) (id : GoalId) : Option Goal :=
  (contexts.snapshot? reference).bind (·.goal? id)

/-- The snapshot that was given last is the one that is found. -/
theorem snapshot?_insert (contexts : Contexts) (reference : ContextRef) (snapshot : Snapshot)
    (sought : ContextRef) :
    (contexts.insert reference snapshot).snapshot? sought =
      if sought = reference then some snapshot else contexts.snapshot? sought :=
  contexts.snapshots.get?_insert reference snapshot sought

end Contexts

end PlaneFigure
