import PlaneFigure.Goal.Fixture
import PlaneFigure.Proofs.Outcome
import PlaneFigure.Service.Basic

/-!
# The goal that a fixture describes

A fixture is usable exactly if all its types are terms, and then there is one goal that it
describes: a hypothesis for every entry, in the order of the entries, each with the term that is
read from its type. An entry without an identity is identified by its name, so two entries may
come to share an identity without either of them saying so.

Of several faults the first one in the order of the entries is reported, and a fault of the target
only if there is no other. It is not the name of the report that tells these two apart, because an
entry may be called like the target.

The identity of a hypothesis is settled when the fixture is loaded. So what a request hides can be
said about the entries: hiding has the effect of deleting those whose identity is named from the
fixture before it is loaded.
-/

namespace PlaneFigure

/-- A text is that of a term. -/
def Readable (text : String) : Prop := ∃ term, Term.read text = .ok term

/-- A hypothesis is as an entry says. -/
structure HypothesisFixture.Describes (entry : HypothesisFixture) (hypothesis : Hypothesis) :
    Prop where
  id : hypothesis.id = ⟨entry.id.getD entry.name⟩
  name : hypothesis.name = entry.name
  type : Term.read entry.type = .ok hypothesis.type

namespace GoalFixture

/-- A goal is as a fixture says. -/
structure Describes (fixture : GoalFixture) (goal : Goal) : Prop where
  id : goal.id = ⟨fixture.id⟩
  hypotheses :
    List.Forall₂ HypothesisFixture.Describes fixture.hypotheses goal.hypotheses
  target : Option.Rel (fun text term => Term.read text = .ok term) fixture.target goal.target

/-- An entry without a fault has the hypothesis that it describes. -/
theorem hypothesisOf_eq_ok_iff (entry : HypothesisFixture) (hypothesis : Hypothesis) :
    hypothesisOf entry = .ok hypothesis ↔ entry.Describes hypothesis := by
  rw [hypothesisOf, map_eq_ok_iff]
  simp only [readTerm, mapError_eq_ok_iff]
  constructor
  · rintro ⟨type, reads, rfl⟩
    exact ⟨rfl, rfl, reads⟩
  · rintro ⟨id, name, reads⟩
    refine ⟨hypothesis.type, reads, ?_⟩
    cases hypothesis
    simp_all [HypothesisFixture.identity]

/-- A fault is reported of an entry under its name. -/
theorem hypothesisOf_eq_error_iff (entry : HypothesisFixture) (failure : FixtureError) :
    hypothesisOf entry = .error failure ↔
      ∃ fault, Term.read entry.type = .error fault ∧ failure = .invalidTerm entry.name fault := by
  unfold hypothesisOf readTerm
  cases Term.read entry.type <;> simp [Except.mapError, Functor.map, Except.map, eq_comm]

/-- An entry is all right if its type is a term. -/
theorem hypothesisOf_isOk_iff (entry : HypothesisFixture) :
    (hypothesisOf entry).isOk = true ↔ Readable entry.type := by
  unfold hypothesisOf readTerm Readable
  cases Term.read entry.type <;>
    simp [Except.mapError, Functor.map, Except.map, Except.isOk, Except.toBool]

/-- A target is read if it is not there or if it is a term. -/
theorem readTarget_eq_ok_iff (written : Option String) (target : Option Term) :
    written.mapM (readTerm "target") = .ok target ↔
      Option.Rel (fun text term => Term.read text = .ok term) written target := by
  cases written with
  | none =>
    rw [Option.mapM_none]
    cases target <;> simp [pure, Except.pure]
  | some text =>
    rw [Option.mapM_some, map_eq_ok_iff]
    simp only [readTerm, mapError_eq_ok_iff]
    cases target <;> simp

/-- A fault is reported of a target under a fixed name. -/
theorem readTarget_eq_error_iff (written : Option String) (failure : FixtureError) :
    written.mapM (readTerm "target") = .error failure ↔
      ∃ text fault, written = some text ∧ Term.read text = .error fault ∧
        failure = .invalidTerm "target" fault := by
  cases written with
  | none => simp [pure, Except.pure]
  | some text =>
    rw [Option.mapM_some, readTerm]
    cases reads : Term.read text <;>
      simp [reads, Except.mapError, Functor.map, Except.map, eq_comm]

/-- Loading succeeds with the goal that is described. -/
theorem goal_eq_ok_iff (fixture : GoalFixture) (goal : Goal) :
    fixture.goal = .ok goal ↔ fixture.Describes goal := by
  rw [GoalFixture.goal]
  simp only [bind_eq_ok_iff, mapM_eq_ok_iff_forall₂, hypothesisOf_eq_ok_iff, readTarget_eq_ok_iff]
  constructor
  · rintro ⟨hypotheses, described, target, reads, returned⟩
    obtain rfl := Except.ok.inj returned
    exact ⟨rfl, described, reads⟩
  · rintro ⟨id, described, reads⟩
    refine ⟨goal.hypotheses, described, goal.target, reads, ?_⟩
    rw [← id]
    rfl

/-- Loading fails at the first entry that has a fault, or else at the target. -/
theorem goal_eq_error_iff (fixture : GoalFixture) (failure : FixtureError) :
    fixture.goal = .error failure ↔
      FailsFirst hypothesisOf fixture.hypotheses failure ∨
        (∀ entry ∈ fixture.hypotheses, Readable entry.type) ∧
          fixture.target.mapM (readTerm "target") = .error failure := by
  rw [GoalFixture.goal, bind_eq_error_iff, mapM_eq_error_iff_failsFirst]
  apply or_congr_right
  simp only [← hypothesisOf_isOk_iff, ← mapM_succeeds_iff, bind_eq_error_iff]
  constructor
  · rintro ⟨hypotheses, converted, fails | ⟨target, _, impossible⟩⟩
    · exact ⟨⟨hypotheses, converted⟩, fails⟩
    · cases impossible
  · rintro ⟨⟨hypotheses, converted⟩, fails⟩
    exact ⟨hypotheses, converted, .inl fails⟩

/-- A target is all right if it is a term, or not there. -/
theorem readTarget_succeeds_iff (written : Option String) :
    (∃ target, written.mapM (readTerm "target") = .ok target) ↔
      ∀ text ∈ written, Readable text := by
  simp only [readTarget_eq_ok_iff]
  cases written with
  | none =>
    constructor
    · intro _ text member
      cases member
    · intro _
      exact ⟨none, .none⟩
  | some text =>
    constructor
    · rintro ⟨target, reads⟩ _ ⟨⟩
      cases reads with
      | some term => exact ⟨_, term⟩
    · intro readable
      obtain ⟨term, reads⟩ := readable text rfl
      exact ⟨some term, .some reads⟩

/-- A fixture is usable exactly if all its types are terms. -/
theorem goal_succeeds_iff (fixture : GoalFixture) :
    (∃ goal, fixture.goal = .ok goal) ↔
      (∀ entry ∈ fixture.hypotheses, Readable entry.type) ∧
        ∀ text ∈ fixture.target, Readable text := by
  have entries := mapM_succeeds_iff hypothesisOf fixture.hypotheses
  simp only [hypothesisOf_isOk_iff] at entries
  rw [← entries, ← readTarget_succeeds_iff, GoalFixture.goal]
  simp only [bind_eq_ok_iff]
  constructor
  · rintro ⟨goal, hypotheses, converted, target, reads, _⟩
    exact ⟨⟨hypotheses, converted⟩, target, reads⟩
  · rintro ⟨⟨hypotheses, converted⟩, target, reads⟩
    exact ⟨_, hypotheses, converted, target, reads, rfl⟩

/-- The locations in the hypotheses of given identities. -/
def locationsIn (ids : List String) : List Location := ids.map fun id => .hypothesis ⟨id⟩

/-- A fixture without the entries of given identities. -/
def without (fixture : GoalFixture) (ids : List String) : GoalFixture :=
  { fixture with
    hypotheses := fixture.hypotheses.filter fun entry => entry.id.getD entry.name ∉ ids }

/-- Hiding leaves of a goal what the fixture describes without the entries that are hidden. -/
theorem Describes.visible {fixture : GoalFixture} {goal : Goal} (describes : fixture.Describes goal)
    (ids : List String) :
    (fixture.without ids).Describes
      { goal with hypotheses := visible goal.hypotheses (locationsIn ids) } := by
  refine ⟨describes.id, ?_, describes.target⟩
  rw [visible_eq]
  refine List.rel_filter ?_ describes.hypotheses
  intro entry hypothesis described
  simp [hiddenBy, locationsIn, Location.hypothesis?, described.id, List.filterMap_map]

/-- A goal with some hypotheses hidden is served like the goal without them. -/
theorem handle_of_hidden (service : Service) (context : ContextRef) (goal : Goal)
    (locations : List Location) (found : service.goal? context goal.id = some goal) :
    service.handle ⟨context, goal.id, locations⟩ =
      { service with
        goal? := fun _ _ =>
          some { goal with hypotheses := visible goal.hypotheses locations } }.handle
        ⟨context, goal.id, []⟩ := by
  have nothing : ∀ hypotheses, visible hypotheses [] = hypotheses := fun _ => rfl
  have synthesized : service.synthesize ⟨context, goal.id, locations⟩ =
      { service with
        goal? := fun _ _ =>
          some { goal with hypotheses := visible goal.hypotheses locations } }.synthesize
        ⟨context, goal.id, []⟩ := by
    simp only [Service.synthesize, found, nothing]
  rw [Service.handle, Service.handle, synthesized]
  rfl

/-- A fixture is usable exactly if the types of all its entries are terms, and its target, if it has
one. Then the goal has the identity of the fixture and a hypothesis for every entry in order, with
the name of the entry, the term that is read, and the identity of the entry, or else its name.
Otherwise the fault of the first entry that has one is reported under the name of this entry, and
the fault of the target under its own name only if no entry has one. Hiding hypotheses by identity
withholds exactly the entries with these identities: what is visible is what the fixture describes
without them, and a service that finds the goal answers as if it had found that one. -/
theorem goal_by_entries (fixture : GoalFixture) :
    ((∃ goal, fixture.goal = .ok goal) ↔
      (∀ entry ∈ fixture.hypotheses, Readable entry.type) ∧
        ∀ text ∈ fixture.target, Readable text) ∧
    (∀ goal, fixture.goal = .ok goal ↔ fixture.Describes goal) ∧
    (∀ failure, fixture.goal = .error failure ↔
      (∃ before entry after fault, fixture.hypotheses = before ++ entry :: after ∧
        (∀ earlier ∈ before, Readable earlier.type) ∧ Term.read entry.type = .error fault ∧
        failure = .invalidTerm entry.name fault) ∨
      ((∀ entry ∈ fixture.hypotheses, Readable entry.type) ∧
        ∃ text fault, fixture.target = some text ∧ Term.read text = .error fault ∧
          failure = .invalidTerm "target" fault)) ∧
    ∀ goal, fixture.goal = .ok goal → ∀ ids : List String, ∃ rest,
      (fixture.without ids).goal = .ok rest ∧
      visible goal.hypotheses (locationsIn ids) = rest.hypotheses ∧
      ∀ (service : Service) (context : ContextRef),
        service.goal? context goal.id = some goal →
        service.handle ⟨context, goal.id, locationsIn ids⟩ =
          { service with goal? := fun _ _ => some rest }.handle ⟨context, goal.id, []⟩ := by
  refine ⟨goal_succeeds_iff fixture, goal_eq_ok_iff fixture, ?_, ?_⟩
  · intro failure
    rw [goal_eq_error_iff, readTarget_eq_error_iff]
    apply or_congr_left
    simp only [FailsFirst, hypothesisOf_isOk_iff, hypothesisOf_eq_error_iff]
    constructor
    · rintro ⟨before, entry, after, split, readable, fault, reads, rfl⟩
      exact ⟨before, entry, after, fault, split, readable, reads, rfl⟩
    · rintro ⟨before, entry, after, fault, split, readable, reads, rfl⟩
      exact ⟨before, entry, after, split, readable, fault, reads, rfl⟩
  · intro goal loaded ids
    have describes := ((goal_eq_ok_iff fixture goal).mp loaded).visible ids
    exact ⟨_, (goal_eq_ok_iff _ _).mpr describes, rfl,
      fun service context found => handle_of_hidden service context goal _ found⟩

end GoalFixture

end PlaneFigure
