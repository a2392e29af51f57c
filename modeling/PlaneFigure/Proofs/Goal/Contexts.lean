import PlaneFigure.Proofs.LastWord
import PlaneFigure.Service.Basic

/-!
# The goal that a session finds

A session is built by giving snapshots, each with its goals in a row. References and identities
may be repeated; every time the later value replaces the earlier one, and a snapshot is replaced
as a whole. So a goal is looked for in the last snapshot given for its reference and nowhere else,
and there the last goal with its identity counts.

Two tables are built one inside the other. At both levels a table has under a key what was inserted
there last, which is the one fact that is proved by going through the insertions. What a service
answers follows, because it looks at a session through a single goal.
-/

namespace PlaneFigure

/-- A goal, if it has an identity. -/
def Goal.named? (id : GoalId) (goal : Goal) : Option Goal :=
  if goal.id = id then some goal else none

/-- The goals of a snapshot, if it is given for a reference. -/
def goalsFor? (reference : ContextRef) (given : ContextRef × List Goal) : Option (List Goal) :=
  if given.1 = reference then some given.2 else none

/-- A goal has no other identity than its own. -/
theorem Goal.named?_eq_some_iff (id : GoalId) (goal found : Goal) :
    goal.named? id = some found ↔ goal = found ∧ goal.id = id := by
  rw [named?, Option.ite_none_right_eq_some, Option.some.injEq, and_comm]

/-- A goal with another identity is not meant. -/
theorem Goal.named?_eq_none_iff (id : GoalId) (goal : Goal) :
    goal.named? id = none ↔ goal.id ≠ id := by
  rw [named?, ite_eq_right_iff]
  simp

/-- The goals of a snapshot are meant by its reference. -/
theorem goalsFor?_eq_some_iff (reference : ContextRef) (given : ContextRef × List Goal)
    (goals : List Goal) :
    goalsFor? reference given = some goals ↔ given = (reference, goals) := by
  rw [goalsFor?, Option.ite_none_right_eq_some, Option.some.injEq, Prod.ext_iff]

/-- A snapshot for another reference is not meant. -/
theorem goalsFor?_eq_none_iff (reference : ContextRef) (given : ContextRef × List Goal) :
    goalsFor? reference given = none ↔ given.1 ≠ reference := by
  rw [goalsFor?, ite_eq_right_iff]
  simp

/-- The last goal with an identity stands behind all others that have it. -/
theorem Goal.lastWord?_named_eq_some_iff (id : GoalId) (goals : List Goal) (found : Goal) :
    lastWord? (named? id) goals = some found ↔
      ∃ earlier later, goals = earlier ++ found :: later ∧ found.id = id ∧
        ∀ other ∈ later, other.id ≠ id := by
  simp only [lastWord?_eq_some_iff, named?_eq_some_iff, named?_eq_none_iff]
  constructor
  · rintro ⟨earlier, goal, later, split, ⟨rfl, own⟩, last⟩
    exact ⟨earlier, later, split, own, last⟩
  · rintro ⟨earlier, later, split, own, last⟩
    exact ⟨earlier, found, later, split, ⟨rfl, own⟩, last⟩

/-- The last snapshot for a reference stands behind all others that are given for it. -/
theorem lastWord?_goalsFor_eq_some_iff (reference : ContextRef)
    (given : List (ContextRef × List Goal)) (goals : List Goal) :
    lastWord? (goalsFor? reference) given = some goals ↔
      ∃ before after, given = before ++ (reference, goals) :: after ∧
        ∀ snapshot ∈ after, snapshot.1 ≠ reference := by
  simp only [lastWord?_eq_some_iff, goalsFor?_eq_some_iff, goalsFor?_eq_none_iff]
  constructor
  · rintro ⟨before, snapshot, after, split, rfl, last⟩
    exact ⟨before, after, split, last⟩
  · rintro ⟨before, after, split, last⟩
    exact ⟨before, _, after, split, rfl, last⟩

/-- In a snapshot the last goal with an identity is found. -/
theorem Snapshot.goal?_ofGoals (goals : List Goal) (id : GoalId) :
    (ofGoals goals).goal? id = lastWord? (Goal.named? id) goals := by
  have inserted : ∀ (table : Table GoalId Goal) (goal : Goal),
      (table.insert goal.id goal).get? id = (goal.named? id).or (table.get? id) := by
    intro table goal
    rw [Table.get?_insert, Goal.named?]
    by_cases same : id = goal.id
    · rw [if_pos same, if_pos same.symm, Option.some_or]
    · rw [if_neg same, if_neg (Ne.symm same), Option.none_or]
  have run := view?_foldl (fun table : Table GoalId Goal => table.get? id) _ _ inserted goals .empty
  rw [Table.get?_empty, Option.or_none] at run
  exact run

/-- In a session the last snapshot given for a reference is found. -/
theorem Contexts.snapshot?_ofGoals (given : List (ContextRef × List Goal))
    (reference : ContextRef) :
    (ofGoals given).snapshot? reference =
      (lastWord? (goalsFor? reference) given).map Snapshot.ofGoals := by
  have inserted : ∀ (contexts : Contexts) (snapshot : ContextRef × List Goal),
      (contexts.insert snapshot.1 (.ofGoals snapshot.2)).snapshot? reference =
        ((goalsFor? reference snapshot).map Snapshot.ofGoals).or
          (contexts.snapshot? reference) := by
    intro contexts snapshot
    rw [snapshot?_insert, goalsFor?]
    by_cases same : reference = snapshot.1
    · rw [if_pos same, if_pos same.symm, Option.map_some, Option.some_or]
    · rw [if_neg same, if_neg (Ne.symm same), Option.map_none, Option.none_or]
  have run := view?_foldl (fun contexts : Contexts => contexts.snapshot? reference) _ _ inserted
    given .empty
  have nothing : (Contexts.empty).snapshot? reference = none := rfl
  rw [nothing, Option.or_none, lastWord?, ← List.map_filterMap, List.getLast?_map] at run
  exact run

/-- A session finds the last goal with an identity in the last snapshot given for a reference. -/
theorem Contexts.goal?_ofGoals (given : List (ContextRef × List Goal)) (reference : ContextRef)
    (id : GoalId) :
    (ofGoals given).goal? reference id =
      (lastWord? (goalsFor? reference) given).bind (lastWord? (Goal.named? id)) := by
  rw [goal?, snapshot?_ofGoals, Option.bind_map]
  exact Option.bind_congr fun goals _ => Snapshot.goal?_ofGoals goals id

/-- A session finds nothing if no snapshot is given for the reference, or if the last one has no
such goal. -/
theorem Contexts.goal?_ofGoals_eq_none_iff (given : List (ContextRef × List Goal))
    (reference : ContextRef) (id : GoalId) :
    (ofGoals given).goal? reference id = none ↔
      lastWord? (goalsFor? reference) given = none ∨
        ∃ goals, lastWord? (goalsFor? reference) given = some goals ∧
          lastWord? (Goal.named? id) goals = none := by
  rw [goal?_ofGoals]
  cases lastWord? (goalsFor? reference) given <;> simp

/-- Only the snapshots for a reference matter to its goals. -/
theorem Contexts.goal?_filter (given : List (ContextRef × List Goal)) (reference : ContextRef)
    (id : GoalId) :
    (ofGoals (given.filter (·.1 = reference))).goal? reference id =
      (ofGoals given).goal? reference id := by
  rw [goal?_ofGoals, goal?_ofGoals, lastWord?_filter]
  intro snapshot other
  exact (goalsFor?_eq_none_iff reference snapshot).mpr (of_decide_eq_false other)

/-- Of the snapshots for a reference only the last one matters. -/
theorem Contexts.goal?_of_last (before after : List (ContextRef × List Goal))
    (reference : ContextRef) (goals : List Goal) (id : GoalId)
    (last : ∀ later ∈ after, later.1 ≠ reference) :
    (ofGoals (before ++ (reference, goals) :: after)).goal? reference id =
      lastWord? (Goal.named? id) goals := by
  have found : lastWord? (goalsFor? reference) (before ++ (reference, goals) :: after) =
      some goals :=
    (lastWord?_goalsFor_eq_some_iff reference _ goals).mpr ⟨before, after, rfl, last⟩
  rw [goal?_ofGoals, found, Option.bind_some]

/-- Goals with other identities have no say. -/
theorem Goal.lastWord?_named_filter (goals : List Goal) (id : GoalId) :
    lastWord? (named? id) (goals.filter (·.id = id)) = lastWord? (named? id) goals := by
  apply lastWord?_filter
  intro goal other
  exact (named?_eq_none_iff id goal).mpr (of_decide_eq_false other)

/-- Of the goals of a snapshot only those with the identity that is asked for matter. -/
theorem Contexts.goal?_of_same_named (before after : List (ContextRef × List Goal))
    (context : ContextRef) (goals others : List Goal) (reference : ContextRef) (id : GoalId)
    (same : others.filter (·.id = id) = goals.filter (·.id = id)) :
    (ofGoals (before ++ (context, others) :: after)).goal? reference id =
      (ofGoals (before ++ (context, goals) :: after)).goal? reference id := by
  have named : lastWord? (Goal.named? id) others = lastWord? (Goal.named? id) goals := by
    rw [← Goal.lastWord?_named_filter, same, Goal.lastWord?_named_filter]
  rw [goal?_ofGoals, goal?_ofGoals, lastWord?_append, lastWord?_append, lastWord?_cons,
    lastWord?_cons]
  cases lastWord? (goalsFor? reference) after with
  | some latest => rfl
  | none =>
    by_cases meant : context = reference
    · simp [goalsFor?, meant, named]
    · simp [goalsFor?, meant]

/-- The service with the goals of a session instead of its own. -/
def Service.serving (service : Service) (given : List (ContextRef × List Goal)) : Service :=
  { service with goal? := (Contexts.ofGoals given).goal? }

/-- A service looks at a session through the one goal that a request asks for. -/
theorem Service.handle_serving_congr (service : Service)
    (given others : List (ContextRef × List Goal)) (request : Request)
    (same : (Contexts.ofGoals others).goal? request.context request.goal =
      (Contexts.ofGoals given).goal? request.context request.goal) :
    (service.serving others).handle request = (service.serving given).handle request := by
  have synthesized :
      (service.serving others).synthesize request = (service.serving given).synthesize request := by
    simp only [synthesize, serving, same]
  rw [handle, handle, synthesized]
  rfl

/-- What a session finds is the last goal with the identity in the last snapshot given for the
reference. It finds nothing if there is no snapshot for the reference, or if the last one has no
such goal, whatever there is in earlier ones. So what a service answers to a request does not depend
on the snapshots for other references, which can be added, removed and moved about; nor on the
earlier ones for the same reference; nor on the other goals of any snapshot. -/
theorem Contexts.last_given (given : List (ContextRef × List Goal)) (reference : ContextRef)
    (id : GoalId) :
    (∀ goal, (ofGoals given).goal? reference id = some goal ↔
      ∃ before goals after earlier later, given = before ++ (reference, goals) :: after ∧
        (∀ snapshot ∈ after, snapshot.1 ≠ reference) ∧
        goals = earlier ++ goal :: later ∧ goal.id = id ∧ ∀ other ∈ later, other.id ≠ id) ∧
    ((ofGoals given).goal? reference id = none ↔
      (∀ snapshot ∈ given, snapshot.1 ≠ reference) ∨
      ∃ before goals after, given = before ++ (reference, goals) :: after ∧
        (∀ snapshot ∈ after, snapshot.1 ≠ reference) ∧ ∀ goal ∈ goals, goal.id ≠ id) ∧
    ∀ (service : Service) (locations : List Location),
      (∀ others, others.filter (·.1 = reference) = given.filter (·.1 = reference) →
        (service.serving others).handle ⟨reference, id, locations⟩ =
          (service.serving given).handle ⟨reference, id, locations⟩) ∧
      (∀ before goals after, given = before ++ (reference, goals) :: after →
        (∀ snapshot ∈ after, snapshot.1 ≠ reference) →
        (service.serving [(reference, goals)]).handle ⟨reference, id, locations⟩ =
          (service.serving given).handle ⟨reference, id, locations⟩) ∧
      ∀ before context goals others after, given = before ++ (context, goals) :: after →
        others.filter (·.id = id) = goals.filter (·.id = id) →
        (service.serving (before ++ (context, others) :: after)).handle
            ⟨reference, id, locations⟩ =
          (service.serving given).handle ⟨reference, id, locations⟩ := by
  refine ⟨?_, ?_, fun service locations => ⟨?_, ?_, ?_⟩⟩
  · intro goal
    rw [goal?_ofGoals, Option.bind_eq_some_iff]
    simp only [lastWord?_goalsFor_eq_some_iff, Goal.lastWord?_named_eq_some_iff]
    constructor
    · rintro ⟨goals, ⟨before, after, split, last⟩, earlier, later, named⟩
      exact ⟨before, goals, after, earlier, later, split, last, named⟩
    · rintro ⟨before, goals, after, earlier, later, split, last, named⟩
      exact ⟨goals, ⟨before, after, split, last⟩, earlier, later, named⟩
  · rw [goal?_ofGoals_eq_none_iff, lastWord?_eq_none_iff]
    simp only [lastWord?_goalsFor_eq_some_iff, lastWord?_eq_none_iff, goalsFor?_eq_none_iff,
      Goal.named?_eq_none_iff]
    apply or_congr_right
    constructor
    · rintro ⟨goals, ⟨before, after, split, last⟩, unnamed⟩
      exact ⟨before, goals, after, split, last, unnamed⟩
    · rintro ⟨before, goals, after, split, last, unnamed⟩
      exact ⟨goals, ⟨before, after, split, last⟩, unnamed⟩
  · intro others same
    apply service.handle_serving_congr
    rw [← goal?_filter, same, goal?_filter]
  · rintro before goals after rfl last
    apply service.handle_serving_congr
    exact (goal?_of_last [] [] reference goals id (by simp)).trans
      (goal?_of_last before after reference goals id last).symm
  · rintro before context goals others after rfl same
    exact service.handle_serving_congr _ _ _
      (goal?_of_same_named before after context goals others reference id same)

/-- A goal that only a replaced snapshot has is not found. -/
example : (Contexts.ofGoals [(⟨"c"⟩, [⟨⟨"g"⟩, [], none⟩]), (⟨"c"⟩, [])]).goal? ⟨"c"⟩ ⟨"g"⟩ = none :=
  rfl

end PlaneFigure
