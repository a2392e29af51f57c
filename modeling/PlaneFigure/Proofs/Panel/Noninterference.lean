import Mathlib.Logic.Relation
import PlaneFigure.Proofs.Diagram.Withheld
import PlaneFigure.Proofs.Panel.Settled

/-!
# What a panel does not depend on

Of the selected locations only those in the goal under the cursor reach the service, and of these
only the hypotheses that they name. Of the goals on display only one thing matters, namely whether
the goal under the cursor is among them. Everything else that a panel is given leaves no trace
in what it shows: not in the diagram, and not in the choice or the text of an error.

The statement compares two panels that are given different properties. It goes through every
stage of a request, because each of them could let something through: the goals on display
decide whether there is a request, the locations become part of it, and the service looks up,
hides, synthesizes and renders. Nothing is assumed of the service.
-/

namespace PlaneFigure

/-- The answer of a service depends only on the goal that is asked for and on the hypotheses
that the locations name. -/
theorem Service.handle_congr (service : Service) (request other : Request)
    (context : request.context = other.context) (goal : request.goal = other.goal)
    (same : ∀ id, Unnamed request.locations id ↔ Unnamed other.locations id) :
    service.handle request = service.handle other := by
  have synthesized : service.synthesize request = service.synthesize other := by
    unfold Service.synthesize
    rw [context, goal]
    simp only [visible_congr _ _ _ same]
  rw [Service.handle, Service.handle, synthesized]

namespace Panel

/-- A selected location in a goal lies in a hypothesis or in its type. -/
def Props.Names (props : Props) (goal : GoalId) (id : HypothesisId) : Prop :=
  ∃ selected ∈ props.selected, selected.goal = goal ∧ selected.location.Names id

/-- Both panels have their cursor in the same place, both or neither display the goal under it,
and the selected locations in this goal name the same hypotheses. -/
structure Props.Alike (props other : Props) : Prop where
  cursor : props.cursor = other.cursor
  displayed : ∀ goal, props.cursor.goal = some goal → (goal ∈ props.goals ↔ goal ∈ other.goals)
  named : ∀ goal, props.cursor.goal = some goal →
    ∀ id, props.Names goal id ↔ other.Names goal id

/-- The request for the goal under the cursor. -/
theorem Props.request_of_displayed (props : Props) (goal : GoalId)
    (under : props.cursor.goal = some goal) (displayed : goal ∈ props.goals) :
    props.request = .ok ⟨props.cursor.context, goal,
      (props.selected.filter (·.goal = goal)).map (·.location)⟩ := by
  simp [request, under, displayed]

/-- A goal that is not on display is not found. -/
theorem Props.request_of_not_displayed (props : Props) (goal : GoalId)
    (under : props.cursor.goal = some goal) (absent : goal ∉ props.goals) :
    props.request = .error (.goalNotFound goal props.cursor.context) := by
  simp [request, under, absent]

/-- The locations of a request name the hypotheses that the selected locations in its goal
name. -/
theorem Props.unnamed_iff (props : Props) (goal : GoalId) (id : HypothesisId) :
    Unnamed ((props.selected.filter (·.goal = goal)).map (·.location)) id ↔
      ¬ props.Names goal id := by
  simp only [Unnamed, Names, List.mem_map, List.mem_filter, decide_eq_true_eq]
  constructor
  · rintro spared ⟨selected, member, inGoal, names⟩
    exact spared selected.location ⟨selected, ⟨member, inGoal⟩, rfl⟩ names
  · rintro spared location ⟨selected, ⟨member, inGoal⟩, rfl⟩ names
    exact spared ⟨selected, member, inGoal, names⟩

/-- The outcome of an update that a service answers is the same for properties that are alike. -/
theorem Props.Alike.outcome (service : Service) (props other : Props) (alike : props.Alike other) :
    props.outcome service.handle = other.outcome service.handle := by
  have same := alike.cursor
  cases under : props.cursor.goal with
  | none =>
    have alsoNone : other.cursor.goal = none := same ▸ under
    simp [Props.outcome, request, alsoNone, same]
  | some goal =>
    have alsoUnder : other.cursor.goal = some goal := same ▸ under
    by_cases displayed : goal ∈ props.goals
    · have alsoDisplayed := (alike.displayed goal under).mp displayed
      rw [Props.outcome, Props.outcome, props.request_of_displayed goal under displayed,
        other.request_of_displayed goal alsoUnder alsoDisplayed]
      apply service.handle_congr
      · exact congrArg Cursor.context same
      · rfl
      · intro id
        rw [props.unnamed_iff, other.unnamed_iff, alike.named goal under]
    · have alsoAbsent := (alike.displayed goal under).not.mp displayed
      rw [Props.outcome, Props.outcome, props.request_of_not_displayed goal under displayed,
        other.request_of_not_displayed goal alsoUnder alsoAbsent, same]

/-- A change of properties that concerns nothing the panel depends on. -/
inductive Immaterial (props : Props) : Props → Prop where
  /-- The same locations are selected in another order. -/
  | order (selected : List GoalLocation) (same : selected.Perm props.selected) :
      Immaterial props { props with selected }
  /-- A location is selected once more. -/
  | repetition (selected : GoalLocation) (member : selected ∈ props.selected) :
      Immaterial props { props with selected := selected :: props.selected }
  /-- A location is selected in another goal than the one under the cursor. -/
  | elsewhere (selected : GoalLocation) (other : props.cursor.goal ≠ some selected.goal) :
      Immaterial props { props with selected := selected :: props.selected }
  /-- A target is selected, or a place in it. -/
  | target (selected : GoalLocation) (apart : ∀ id, ¬ selected.location.Names id) :
      Immaterial props { props with selected := selected :: props.selected }
  /-- Instead of a hypothesis or a place in its type another place in its type is selected. -/
  | position (goal : GoalId) (location : Location) (id : HypothesisId) (place : Position)
      (rest : List GoalLocation) (names : location.Names id)
      (first : props.selected = ⟨goal, location⟩ :: rest) :
      Immaterial props { props with selected := ⟨goal, .hypothesisType id place⟩ :: rest }
  /-- Other goals are on display besides the one under the cursor. -/
  | display (goals : List GoalId)
      (same : ∀ goal, props.cursor.goal = some goal → (goal ∈ props.goals ↔ goal ∈ goals)) :
      Immaterial props { props with goals }

/-- Properties are like themselves. -/
theorem Props.Alike.refl (props : Props) : props.Alike props :=
  ⟨rfl, fun _ _ => Iff.rfl, fun _ _ _ => Iff.rfl⟩

/-- Likeness is mutual. -/
theorem Props.Alike.symm {props other : Props} (alike : props.Alike other) :
    other.Alike props := by
  refine ⟨alike.cursor.symm, ?_, ?_⟩
  · intro goal under
    exact (alike.displayed goal (alike.cursor ▸ under)).symm
  · intro goal under id
    exact (alike.named goal (alike.cursor ▸ under) id).symm

/-- Likeness is passed on. -/
theorem Props.Alike.trans {props between other : Props} (alike : props.Alike between)
    (alsoAlike : between.Alike other) : props.Alike other := by
  refine ⟨alike.cursor.trans alsoAlike.cursor, ?_, ?_⟩
  · intro goal under
    have alsoUnder := alike.cursor ▸ under
    exact (alike.displayed goal under).trans (alsoAlike.displayed goal alsoUnder)
  · intro goal under id
    have alsoUnder := alike.cursor ▸ under
    exact (alike.named goal under id).trans (alsoAlike.named goal alsoUnder id)

/-- One more selected location names what it names in its goal. -/
theorem Props.names_cons (props : Props) (selected : GoalLocation) (goal : GoalId)
    (id : HypothesisId) :
    { props with selected := selected :: props.selected : Props }.Names goal id ↔
      (selected.goal = goal ∧ selected.location.Names id) ∨ props.Names goal id := by
  simp [Names]

/-- Selecting one more location makes no difference if, in the goal under the cursor, it names
nothing that is not named already. -/
theorem Props.alike_cons (props : Props) (selected : GoalLocation)
    (known : props.cursor.goal = some selected.goal →
      ∀ id, selected.location.Names id → props.Names selected.goal id) :
    props.Alike { props with selected := selected :: props.selected } := by
  refine ⟨rfl, fun _ _ => Iff.rfl, fun goal under id => ?_⟩
  rw [props.names_cons]
  refine ⟨.inr, ?_⟩
  rintro (⟨rfl, names⟩ | already)
  · exact known under id names
  · exact already

/-- What concerns nothing the panel depends on makes properties that are alike. -/
theorem Immaterial.alike (props edited : Props) (edit : Immaterial props edited) :
    props.Alike edited := by
  cases edit with
  | order selected same =>
    refine ⟨rfl, fun _ _ => Iff.rfl, fun goal _ id => ?_⟩
    simp only [Props.Names, same.mem_iff]
  | repetition selected member =>
    exact props.alike_cons selected fun _ _ names => ⟨selected, member, rfl, names⟩
  | elsewhere selected other =>
    exact props.alike_cons selected fun under => absurd under other
  | target selected apart =>
    exact props.alike_cons selected fun _ id names => absurd names (apart id)
  | position goal location id place rest names first =>
    refine ⟨rfl, fun _ _ => Iff.rfl, fun sought _ other => ?_⟩
    have alsoNames : (Location.hypothesisType id place).Names id := .inr ⟨place, rfl⟩
    simp only [Props.Names, first, List.exists_mem_cons_iff, location.names_iff_eq id other names,
      Location.names_iff_eq _ id other alsoNames]
  | display goals same => exact ⟨rfl, same, fun _ _ _ => Iff.rfl⟩

/-- Changes of that kind, made and undone any number of times, lead to properties that are
alike. -/
theorem alike_of_edits (props edited : Props) (edits : Relation.EqvGen Immaterial props edited) :
    props.Alike edited := by
  induction edits with
  | rel props edited edit => exact edit.alike props edited
  | refl props => exact .refl props
  | symm props edited _ inductionHypothesis => exact inductionHypothesis.symm
  | trans props between edited _ _ before after => exact before.trans after

/-- Let the requests of fresh panels be answered by the same service. If two of them are given
properties that are alike, both settle with the same outcome: the same response, or the same
error. A panel settles in the same status after any number of changes in what it does not depend
on: the order and the repetition of locations, locations in other goals and in the target, places
inside a type, and the other goals on display. -/
theorem update_noninterference (service : Service) (props other : Props)
    (alike : props.Alike other) :
    (∃ outcome, (Panel.fresh.update service.handle props).status = .ofOutcome outcome ∧
      (Panel.fresh.update service.handle other).status = .ofOutcome outcome) ∧
    ∀ edited, Relation.EqvGen Immaterial props edited →
      (Panel.fresh.update service.handle edited).status =
        (Panel.fresh.update service.handle props).status := by
  constructor
  · refine ⟨props.outcome service.handle, rfl, ?_⟩
    rw [alike.outcome service props other]
    rfl
  · intro edited edits
    rw [update_fresh, update_fresh, (alike_of_edits props edited edits).outcome service]

/-- A service for one goal with two facts, which lists the objects of a diagram. -/
def listing : Service :=
  (Service.new (Contexts.empty.insert ⟨"c"⟩ (.ofGoals [⟨⟨"g"⟩,
    [⟨⟨"h1"⟩, "h1", .apply "OnLine" [.var "a", .var "L"]⟩,
      ⟨⟨"h2"⟩, "h2", .apply "OnCircle" [.var "a", .var "C"]⟩], none⟩])).goal?).adjust
    (.renderer .caption)

/-- A hypothesis is selected. -/
def selectedOnce : Props :=
  ⟨⟨⟨"c"⟩, some ⟨"g"⟩⟩, [⟨"g"⟩], [⟨⟨"g"⟩, .hypothesis ⟨"h1"⟩⟩]⟩

/-- The same hypothesis is selected twice through its type, the target is selected, and the other
hypothesis is selected in another goal, which is also on display. -/
def selectedAround : Props :=
  ⟨⟨⟨"c"⟩, some ⟨"g"⟩⟩, [⟨"k"⟩, ⟨"g"⟩],
    [⟨⟨"k"⟩, .hypothesis ⟨"h2"⟩⟩, ⟨⟨"g"⟩, .hypothesisType ⟨"h1"⟩ ⟨"/0"⟩⟩, ⟨⟨"g"⟩, .target⟩,
      ⟨⟨"g"⟩, .hypothesisType ⟨"h1"⟩ ⟨"/1"⟩⟩]⟩

/-- Both panels list the objects of the fact that is not hidden. -/
theorem update_noninterference_around :
    selectedOnce.Alike selectedAround ∧
      (Panel.fresh.update listing.handle selectedOnce).status =
        .resolved ⟨some (.text "500 steps: Point a, Circle C")⟩ ∧
      (Panel.fresh.update listing.handle selectedAround).status =
        .resolved ⟨some (.text "500 steps: Point a, Circle C")⟩ := by
  have alike : selectedOnce.Alike selectedAround := by
    refine ⟨rfl, ?_, ?_⟩
    · rintro goal ⟨⟩
      decide
    · rintro goal ⟨⟩ id
      simp [Props.Names, selectedOnce, selectedAround, Location.Names, eq_comm]
  have shown : (Panel.fresh.update listing.handle selectedOnce).status =
      .resolved ⟨some (.text "500 steps: Point a, Circle C")⟩ := by
    rfl
  obtain ⟨⟨outcome, first, second⟩, _⟩ :=
    update_noninterference listing selectedOnce selectedAround alike
  exact ⟨alike, shown, second.trans (first.symm.trans shown)⟩

end Panel

end PlaneFigure
