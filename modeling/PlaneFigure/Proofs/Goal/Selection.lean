import Mathlib.Data.List.Basic
import PlaneFigure.Goal.Selection

/-!
# What a selection hides

A selection is a list of locations, but only the set of hypotheses that it names takes effect.
Two selections leave the same hypotheses visible exactly if they name the same ones among those
that are there. So selections can be put together in any order and any number of times, and
locations that lie in no hypothesis, or in one that is not there, can be added and left out.

Several hypotheses may share an identity; they are hidden together. Those that stay visible keep
their order, and each stays as often as it was there.
-/

namespace PlaneFigure

/-- The location lies in the hypothesis of an identity, or in its type. -/
def Location.Names (location : Location) (id : HypothesisId) : Prop :=
  location = .hypothesis id ∨ ∃ position, location = .hypothesisType id position

/-- A location names the hypothesis in which it lies. -/
theorem Location.names_iff (location : Location) (id : HypothesisId) :
    location.Names id ↔ location.hypothesis? = some id := by
  cases location <;> simp [Names, hypothesis?]

instance (location : Location) (id : HypothesisId) : Decidable (location.Names id) :=
  decidable_of_iff _ (location.names_iff id).symm

/-- A location lies in one hypothesis at most. -/
theorem Location.names_iff_eq (location : Location) (id other : HypothesisId)
    (names : location.Names id) : location.Names other ↔ id = other := by
  rw [Location.names_iff] at names ⊢
  rw [names, Option.some_inj]

/-- None of the locations names the hypothesis. -/
def Unnamed (locations : List Location) (id : HypothesisId) : Prop :=
  ∀ location ∈ locations, ¬ location.Names id

instance (locations : List Location) (id : HypothesisId) : Decidable (Unnamed locations id) :=
  inferInstanceAs (Decidable (∀ location ∈ locations, ¬ location.Names id))

/-- The visible hypotheses are those that no location names. -/
theorem visible_eq_filter (hypotheses : List Hypothesis) (locations : List Location) :
    visible hypotheses locations =
      hypotheses.filter fun hypothesis => Unnamed locations hypothesis.id := by
  have hidden : ∀ id, id ∈ hiddenBy locations ↔ ¬ Unnamed locations id := by
    intro id
    simp [hiddenBy, Unnamed, Location.names_iff]
  rw [visible_eq]
  apply List.filter_congr
  intro hypothesis _
  simp [hidden]

/-- A hypothesis is visible if it is there and no location names it. -/
theorem mem_visible_iff (hypotheses : List Hypothesis) (locations : List Location)
    (hypothesis : Hypothesis) :
    hypothesis ∈ visible hypotheses locations ↔
      hypothesis ∈ hypotheses ∧ Unnamed locations hypothesis.id := by
  rw [visible_eq_filter, List.mem_filter, decide_eq_true_eq]

/-- Two selections leave the same hypotheses visible exactly if they name the same ones among
those that are there. -/
theorem visible_eq_iff (hypotheses : List Hypothesis) (locations others : List Location) :
    visible hypotheses locations = visible hypotheses others ↔
      ∀ hypothesis ∈ hypotheses,
        (Unnamed locations hypothesis.id ↔ Unnamed others hypothesis.id) := by
  constructor
  · intro same hypothesis there
    have visibly := mem_visible_iff hypotheses locations hypothesis
    rw [same, mem_visible_iff] at visibly
    simpa [there] using visibly.symm
  · intro same
    rw [visible_eq_filter, visible_eq_filter]
    apply List.filter_congr
    intro hypothesis there
    simp only [same hypothesis there]

/-- What is visible depends only on which hypotheses the locations name. -/
theorem visible_congr (hypotheses : List Hypothesis) (locations others : List Location)
    (same : ∀ id, Unnamed locations id ↔ Unnamed others id) :
    visible hypotheses locations = visible hypotheses others :=
  (visible_eq_iff hypotheses locations others).mpr fun hypothesis _ => same hypothesis.id

/-- Locations in two rows name what one of them names. -/
theorem unnamed_append (locations others : List Location) (id : HypothesisId) :
    Unnamed (locations ++ others) id ↔ Unnamed locations id ∧ Unnamed others id :=
  List.forall_mem_append

/-- A location among others names what it names by itself. -/
theorem unnamed_insert (before after : List Location) (location : Location) (id : HypothesisId) :
    Unnamed (before ++ location :: after) id ↔
      ¬ location.Names id ∧ Unnamed (before ++ after) id := by
  simp only [Unnamed, List.forall_mem_append, List.forall_mem_cons]
  exact and_left_comm

/-- A location that names no hypothesis that is there can be left out. -/
theorem visible_insert (hypotheses : List Hypothesis) (before after : List Location)
    (location : Location) (idle : ∀ hypothesis ∈ hypotheses, ¬ location.Names hypothesis.id) :
    visible hypotheses (before ++ location :: after) = visible hypotheses (before ++ after) := by
  rw [visible_eq_iff]
  intro hypothesis there
  rw [unnamed_insert, and_iff_right (idle hypothesis there)]

/-- What is visible are the hypotheses, in order and as often as they are there, that no location
lies in or in the type of. It makes no difference that they are not looked at if nothing is
hidden. Hiding in two steps is hiding at once, in either order, and hiding again changes nothing.
The locations can be permuted and repeated; one in a hypothesis can be replaced by one in its
type, at any position; and locations in the target, or in hypotheses that are not there, can be
added anywhere. -/
theorem visible_by_names (hypotheses : List Hypothesis) (locations others : List Location) :
    (visible hypotheses locations =
        hypotheses.filter fun hypothesis => Unnamed locations hypothesis.id) ∧
    (visible hypotheses locations =
        hypotheses.filter fun hypothesis => !(hiddenBy locations).contains hypothesis.id) ∧
    (hiddenBy locations = [] → visible hypotheses locations = hypotheses) ∧
    visible (visible hypotheses locations) others = visible hypotheses (locations ++ others) ∧
    visible hypotheses (locations ++ others) = visible (visible hypotheses others) locations ∧
    visible (visible hypotheses locations) locations = visible hypotheses locations ∧
    ((∀ location, location ∈ locations ↔ location ∈ others) →
      visible hypotheses locations = visible hypotheses others) ∧
    (∀ before after id position,
      visible hypotheses (before ++ .hypothesis id :: after) =
        visible hypotheses (before ++ .hypothesisType id position :: after)) ∧
    (∀ before after, visible hypotheses (before ++ .target :: after) =
      visible hypotheses (before ++ after)) ∧
    (∀ before after position, visible hypotheses (before ++ .targetType position :: after) =
      visible hypotheses (before ++ after)) ∧
    ∀ before after location id, location.Names id →
      (∀ hypothesis ∈ hypotheses, hypothesis.id ≠ id) →
        visible hypotheses (before ++ location :: after) =
          visible hypotheses (before ++ after) := by
  refine ⟨visible_eq_filter hypotheses locations, visible_eq hypotheses locations, ?_,
    (visible_append hypotheses locations others).symm, ?_, ?_, ?_, ?_, ?_, ?_, ?_⟩
  · intro nothing
    simp [visible, nothing]
  · rw [← visible_append]
    apply visible_congr
    intro id
    rw [unnamed_append, unnamed_append, and_comm]
  · rw [← visible_append]
    apply visible_congr
    intro id
    rw [unnamed_append, and_self]
  · intro same
    apply visible_congr
    intro id
    simp only [Unnamed, same]
  · intro before after id position
    apply visible_congr
    intro named
    rw [unnamed_insert, unnamed_insert, Location.names_iff, Location.names_iff]
    exact Iff.rfl
  · intro before after
    exact visible_insert hypotheses before after .target
      fun hypothesis _ => by simp [Location.Names]
  · intro before after position
    exact visible_insert hypotheses before after (.targetType position)
      fun hypothesis _ => by simp [Location.Names]
  · intro before after location id names absent
    apply visible_insert
    intro hypothesis there
    rw [location.names_iff_eq id hypothesis.id names]
    exact (absent hypothesis there).symm

/-- Hypotheses of which two share an identity. -/
def twofold : List Hypothesis :=
  [⟨⟨"h1"⟩, "h1", .apply "OnLine" [.var "a", .var "L"]⟩,
    ⟨⟨"h2"⟩, "h2", .apply "OnLine" [.var "b", .var "L"]⟩,
    ⟨⟨"h1"⟩, "h3", .apply "OnCircle" [.var "a", .var "C"]⟩]

/-- Both hypotheses of one identity are hidden, by locations in any order and number, next to
locations that hide nothing here. -/
theorem visible_by_names_twofold :
    visible twofold [.target] = twofold ∧
      visible twofold [.target, .hypothesis ⟨"h1"⟩, .target] =
        visible twofold [.hypothesis ⟨"h1"⟩, .target] ∧
      visible twofold [.hypothesis ⟨"h1"⟩, .hypothesis ⟨"h4"⟩] =
        visible twofold [.hypothesis ⟨"h1"⟩] ∧
      (visible twofold [.hypothesis ⟨"h1"⟩]).map (·.id) = [⟨"h2"⟩] := by
  obtain ⟨_, _, idle, _⟩ := visible_by_names twofold [.target] []
  obtain ⟨_, _, _, _, _, _, repeated, _⟩ := visible_by_names twofold
    [.target, .hypothesis ⟨"h1"⟩, .target] [.hypothesis ⟨"h1"⟩, .target]
  obtain ⟨_, _, _, _, _, _, _, _, _, _, unknown⟩ := visible_by_names twofold [] []
  refine ⟨idle (by decide), repeated ?_, ?_, by decide⟩
  · intro location
    simp [or_comm]
  · exact unknown [.hypothesis ⟨"h1"⟩] [] (.hypothesis ⟨"h4"⟩) ⟨"h4"⟩ (by decide) (by decide)

end PlaneFigure
