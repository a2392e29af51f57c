import Mathlib.Data.List.Forall2

/-!
# Computations that may fail

A computation of several parts succeeds exactly if each part does, with what the parts before
it returned. These laws take a successful computation apart, without a look at what its parts
do. A run over a list is a computation of as many parts as the list has items; what every step
preserves, as far as it succeeds, holds at the end of a run that does.
-/

namespace PlaneFigure

variable {ε δ α β γ σ ι : Type}

/-- An outcome that is mapped succeeds if it did before. -/
theorem map_eq_ok_iff (change : α → β) (outcome : Except ε α) (value : β) :
    change <$> outcome = .ok value ↔ ∃ given, outcome = .ok given ∧ change given = value := by
  cases outcome <;> simp [Functor.map, Except.map]

/-- One computation after another succeeds if both do. -/
theorem bind_eq_ok_iff (outcome : Except ε α) (next : α → Except ε β) (value : β) :
    outcome >>= next = .ok value ↔ ∃ given, outcome = .ok given ∧ next given = .ok value := by
  cases outcome <;> simp [bind, Except.bind]

/-- One computation after another fails if the first one does, or else the second one. -/
theorem bind_eq_error_iff (outcome : Except ε α) (next : α → Except ε β) (failure : ε) :
    outcome >>= next = .error failure ↔
      outcome = .error failure ∨ ∃ given, outcome = .ok given ∧ next given = .error failure := by
  cases outcome <;> simp [bind, Except.bind]

/-- Whether an outcome succeeds does not depend on what is made of its failures. -/
theorem mapError_eq_ok_iff (change : ε → δ) (outcome : Except ε α) (value : α) :
    outcome.mapError change = .ok value ↔ outcome = .ok value := by
  cases outcome <;> simp [Except.mapError]

/-- What every single step preserves holds at the end of a run that does not fail. -/
theorem foldlM_preserves (step : σ → ι → Except ε σ) (holds : σ → Prop)
    (preserves : ∀ state item next, holds state → step state item = .ok next → holds next)
    (items : List ι) (state last : σ) (initially : holds state)
    (runs : items.foldlM step state = .ok last) : holds last := by
  induction items generalizing state with
  | nil =>
    obtain rfl : state = last := Except.ok.inj runs
    exact initially
  | cons item rest inductionHypothesis =>
    rw [List.foldlM_cons, bind_eq_ok_iff] at runs
    obtain ⟨next, first, later⟩ := runs
    exact inductionHypothesis next (preserves state item next initially first) later

/-- Steps that do the same with every item of a list run alike. -/
theorem foldlM_congr (step other : σ → ι → Except ε σ) (items : List ι) (state : σ)
    (same : ∀ item ∈ items, ∀ reached, step reached item = other reached item) :
    items.foldlM step state = items.foldlM other state := by
  induction items generalizing state with
  | nil => rfl
  | cons item rest inductionHypothesis =>
    obtain ⟨first, later⟩ := List.forall_mem_cons.mp same
    rw [List.foldlM_cons, List.foldlM_cons, first state]
    exact congrArg (other state item >>= ·) (funext fun next => inductionHypothesis next later)

/-- A run fails where a step fails that the steps in front of it lead to. -/
theorem foldlM_eq_error_iff (step : σ → ι → Except ε σ) (items : List ι) (state : σ)
    (failure : ε) :
    items.foldlM step state = .error failure ↔
      ∃ before item after last, items = before ++ item :: after ∧
        before.foldlM step state = .ok last ∧ step last item = .error failure := by
  induction items generalizing state with
  | nil =>
    constructor
    · intro fails
      cases fails
    · rintro ⟨before, item, after, last, split, _⟩
      cases before <;> cases split
  | cons first rest inductionHypothesis =>
    rw [List.foldlM_cons]
    cases steps : step state first with
    | error reported =>
      constructor
      · intro fails
        exact ⟨[], first, rest, state, rfl, rfl, steps.trans fails⟩
      · rintro ⟨before, item, after, last, split, runs, fails⟩
        cases before with
        | nil =>
          obtain ⟨rfl, rfl⟩ := List.cons.inj split
          obtain rfl : state = last := Except.ok.inj runs
          exact steps.symm.trans fails
        | cons other others =>
          obtain ⟨rfl, rfl⟩ := List.cons.inj split
          rw [List.foldlM_cons, steps] at runs
          cases runs
    | ok next =>
      refine Iff.trans (inductionHypothesis next) ?_
      constructor
      · rintro ⟨before, item, after, last, rfl, runs, fails⟩
        refine ⟨first :: before, item, after, last, rfl, ?_, fails⟩
        rw [List.foldlM_cons, steps]
        exact runs
      · rintro ⟨before, item, after, last, split, runs, fails⟩
        cases before with
        | nil =>
          obtain ⟨rfl, rfl⟩ := List.cons.inj split
          obtain rfl : state = last := Except.ok.inj runs
          cases steps.symm.trans fails
        | cons other others =>
          obtain ⟨rfl, rfl⟩ := List.cons.inj split
          rw [List.foldlM_cons, steps] at runs
          exact ⟨others, item, after, last, rfl, runs, fails⟩

/-- Why a computation fails, if it does. -/
def failure? : Except ε α → Option ε
  | .ok _ => none
  | .error failure => some failure

/-- There is a reason for a failure exactly if there is no success. -/
theorem failure?_eq_none_iff (outcome : Except ε α) :
    failure? outcome = none ↔ outcome.isOk = true := by
  cases outcome <;> simp [failure?, Except.isOk, Except.toBool]

/-- The reason for a failure is what it fails with. -/
theorem failure?_eq_some_iff (outcome : Except ε α) (failure : ε) :
    failure? outcome = some failure ↔ outcome = .error failure := by
  cases outcome <;> simp [failure?]

/-- A computation fails on an item, and on none in front of it. -/
def FailsFirst (change : α → Except ε β) (items : List α) (failure : ε) : Prop :=
  ∃ earlier item later, items = earlier ++ item :: later ∧
    (∀ other ∈ earlier, (change other).isOk = true) ∧ change item = .error failure

/-- The first failure is found by going through the items. -/
theorem failsFirst_iff (change : α → Except ε β) (items : List α) (failure : ε) :
    FailsFirst change items failure ↔
      items.findSome? (fun item => failure? (change item)) = some failure := by
  simp only [List.findSome?_eq_some_iff, failure?_eq_none_iff, failure?_eq_some_iff]
  constructor
  · rintro ⟨earlier, item, later, split, succeeds, fails⟩
    exact ⟨earlier, item, later, split, fails, succeeds⟩
  · rintro ⟨earlier, item, later, split, fails, succeeds⟩
    exact ⟨earlier, item, later, split, succeeds, fails⟩

/-- A list is read item by item: it succeeds with what the items succeed with, in their order. -/
theorem mapM_eq_ok_iff_forall₂ (change : α → Except ε β) (items : List α) (results : List β) :
    items.mapM change = .ok results ↔
      List.Forall₂ (fun item result => change item = .ok result) items results := by
  induction items generalizing results with
  | nil =>
    rw [List.mapM_nil, List.forall₂_nil_left_iff]
    exact ⟨fun succeeds => (Except.ok.inj succeeds).symm, fun nothing => nothing ▸ rfl⟩
  | cons item rest inductionHypothesis =>
    rw [List.mapM_cons, bind_eq_ok_iff, List.forall₂_cons_left_iff]
    constructor
    · rintro ⟨first, returned, later⟩
      obtain ⟨others, restReturned, listed⟩ := (bind_eq_ok_iff _ _ _).mp later
      exact ⟨first, others, returned, (inductionHypothesis others).mp restReturned,
        (Except.ok.inj listed).symm⟩
    · rintro ⟨first, others, returned, restReturned, rfl⟩
      refine ⟨first, returned, (bind_eq_ok_iff _ _ _).mpr ?_⟩
      exact ⟨others, (inductionHypothesis others).mpr restReturned, rfl⟩

/-- A list is read exactly if the results are those of its items. -/
theorem mapM_eq_ok_iff_map (change : α → Except ε β) (items : List α) (results : List β) :
    items.mapM change = .ok results ↔ items.map change = results.map .ok := by
  rw [mapM_eq_ok_iff_forall₂, ← List.forall₂_eq_eq_eq, List.forall₂_map_left_iff,
    List.forall₂_map_right_iff]

/-- Every result of a list comes from one of its items. -/
theorem mem_of_mapM_eq_ok (change : α → Except ε β) (items : List α) (results : List β)
    (succeeds : items.mapM change = .ok results) (result : β) (member : result ∈ results) :
    ∃ item ∈ items, change item = .ok result := by
  have paired := (mapM_eq_ok_iff_forall₂ change items results).mp succeeds
  clear succeeds
  induction paired with
  | nil => cases member
  | cons returned _ inductionHypothesis =>
    rcases List.mem_cons.mp member with rfl | among
    · exact ⟨_, List.mem_cons_self, returned⟩
    · obtain ⟨origin, found, gives⟩ := inductionHypothesis among
      exact ⟨origin, List.mem_cons_of_mem _ found, gives⟩

/-- A list in which every item is written by itself is read item by item. -/
theorem mapM_map_eq_ok (write : α → β) (read : β → Except ε γ) (result : α → γ)
    (reads : ∀ value, read (write value) = .ok (result value)) (values : List α) :
    (values.map write).mapM read = .ok (values.map result) := by
  rw [mapM_eq_ok_iff_forall₂, List.forall₂_map_left_iff, List.forall₂_map_right_iff,
    List.forall₂_same]
  exact fun value _ => reads value

/-- A list fails to be read with the failure of its first item that fails. -/
theorem mapM_eq_error_iff_failsFirst (change : α → Except ε β) (items : List α) (failure : ε) :
    items.mapM change = .error failure ↔ FailsFirst change items failure := by
  rw [failsFirst_iff]
  induction items with
  | nil => simp [pure, Except.pure]
  | cons item rest inductionHypothesis =>
    rw [List.mapM_cons, List.findSome?_cons]
    cases change item with
    | error reported => simp [failure?, bind, Except.bind]
    | ok first =>
      rw [failure?, ← inductionHypothesis]
      cases rest.mapM change <;> simp [bind, Except.bind, pure, Except.pure]

/-- A list is read if every item can be read. -/
theorem mapM_succeeds_iff (change : α → Except ε β) (items : List α) :
    (∃ results, items.mapM change = .ok results) ↔ ∀ item ∈ items, (change item).isOk = true := by
  have found : (∃ results, items.mapM change = .ok results) ↔
      items.findSome? (fun item => failure? (change item)) = none := by
    cases outcome : items.mapM change with
    | error failure =>
      rw [mapM_eq_error_iff_failsFirst, failsFirst_iff] at outcome
      simp [outcome]
    | ok results =>
      cases first : items.findSome? (fun item => failure? (change item)) with
      | none => simp
      | some failure =>
        rw [← failsFirst_iff, ← mapM_eq_error_iff_failsFirst, outcome] at first
        cases first
  rw [found, List.findSome?_eq_none_iff]
  simp only [failure?_eq_none_iff]

end PlaneFigure
