import Mathlib.Data.List.Basic

/-!
# Going through a list with a state

A computation may fail and have a state besides, in which it can keep whatever it likes: how often
it was called, or with what. The state is not given up when the computation fails. Going through a
list with such a computation therefore shows more than its result. It shows in which order the
items were taken, because each is taken in the state that the one in front of it led to, and that
nothing was done behind a failure, because the state is still the one that the failing item left.
-/

namespace PlaneFigure

universe u
variable {ε σ α β : Type u}

/-- What a computation that may fail and that has a state leads to from a state on. -/
def runFrom (computation : ExceptT ε (StateM σ) α) (state : σ) : Except ε α × σ :=
  (computation.run.run state).run

/-- Returning a value leaves the state as it is. -/
theorem runFrom_pure (value : α) (state : σ) :
    runFrom (pure value : ExceptT ε (StateM σ) α) state = (.ok value, state) := rfl

/-- What is made of the value of a computation makes no difference for the state. -/
theorem runFrom_map (change : α → β) (computation : ExceptT ε (StateM σ) α) (state : σ) :
    runFrom (change <$> computation) state =
      (change <$> (runFrom computation state).1, (runFrom computation state).2) := by
  simp only [runFrom, ExceptT.run_map, StateT.run_map, Id.run_map]
  rfl

/-- A second computation starts where the first one succeeded, and not at all if it failed. -/
theorem runFrom_bind (first : ExceptT ε (StateM σ) α) (next : α → ExceptT ε (StateM σ) β)
    (state : σ) :
    runFrom (first >>= next) state =
      match runFrom first state with
      | (.ok given, reached) => runFrom (next given) reached
      | (.error failure, reached) => (.error failure, reached) := by
  simp only [runFrom, ExceptT.run_bind, StateT.run_bind, Id.run_bind]
  rcases (first.run.run state).run with ⟨outcome, reached⟩
  cases outcome <;> rfl

/-- One computation after another succeeds if both do. -/
theorem runFrom_bind_eq_ok_iff (first : ExceptT ε (StateM σ) α)
    (next : α → ExceptT ε (StateM σ) β) (state : σ) (value : β) (last : σ) :
    runFrom (first >>= next) state = (.ok value, last) ↔
      ∃ given reached, runFrom first state = (.ok given, reached) ∧
        runFrom (next given) reached = (.ok value, last) := by
  rw [runFrom_bind]
  rcases runFrom first state with ⟨outcome, reached⟩
  cases outcome <;> simp

/-- One computation after another fails if the first one does, or else the second one. -/
theorem runFrom_bind_eq_error_iff (first : ExceptT ε (StateM σ) α)
    (next : α → ExceptT ε (StateM σ) β) (state : σ) (failure : ε) (last : σ) :
    runFrom (first >>= next) state = (.error failure, last) ↔
      runFrom first state = (.error failure, last) ∨
        ∃ given reached, runFrom first state = (.ok given, reached) ∧
          runFrom (next given) reached = (.error failure, last) := by
  rw [runFrom_bind]
  rcases runFrom first state with ⟨outcome, reached⟩
  cases outcome <;> simp

/-- A computation succeeds on items one after the other, on each of them in the state that the
items in front of it lead to. -/
inductive SucceedsThrough (change : α → ExceptT ε (StateM σ) β) :
    σ → List α → List β → σ → Prop where
  | nil (state : σ) : SucceedsThrough change state [] [] state
  | cons (state : σ) (item : α) (value : β) (next : σ) (rest : List α) (values : List β) (last : σ)
      (first : runFrom (change item) state = (.ok value, next))
      (later : SucceedsThrough change next rest values last) :
      SucceedsThrough change state (item :: rest) (value :: values) last

/-- There is a value for every item. -/
theorem SucceedsThrough.length_eq {change : α → ExceptT ε (StateM σ) β} {state last : σ}
    {items : List α} {values : List β} (through : SucceedsThrough change state items values last) :
    values.length = items.length := by
  induction through with
  | nil => rfl
  | cons _ _ _ _ _ _ _ _ _ inductionHypothesis =>
    rw [List.length_cons, List.length_cons, inductionHypothesis]

/-- Going through a list succeeds if the computation succeeds on one item after the other. -/
theorem runFrom_mapM_eq_ok_iff (change : α → ExceptT ε (StateM σ) β) (items : List α) (state : σ)
    (values : List β) (last : σ) :
    runFrom (items.mapM change) state = (.ok values, last) ↔
      SucceedsThrough change state items values last := by
  induction items generalizing state values with
  | nil =>
    rw [List.mapM_nil, runFrom_pure]
    constructor
    · rintro ⟨⟩
      exact .nil _
    · rintro ⟨⟩
      rfl
  | cons item rest inductionHypothesis =>
    rw [List.mapM_cons, runFrom_bind_eq_ok_iff]
    constructor
    · rintro ⟨value, next, first, later⟩
      obtain ⟨others, reached, through, returned⟩ := (runFrom_bind_eq_ok_iff _ _ _ _ _).mp later
      cases returned
      exact .cons state item value next rest others last first
        ((inductionHypothesis next others).mp through)
    · rintro (_ | ⟨_, _, value, next, _, others, _, first, later⟩)
      refine ⟨value, next, first, (runFrom_bind_eq_ok_iff _ _ _ _ _).mpr ?_⟩
      exact ⟨others, last, (inductionHypothesis next others).mpr later, rfl⟩

/-- Going through a list fails if the computation fails on an item, after it succeeded on all the
items in front. The state is the one that the failing item leaves. -/
theorem runFrom_mapM_eq_error_iff (change : α → ExceptT ε (StateM σ) β) (items : List α)
    (state : σ) (failure : ε) (last : σ) :
    runFrom (items.mapM change) state = (.error failure, last) ↔
      ∃ earlier item later values reached, items = earlier ++ item :: later ∧
        SucceedsThrough change state earlier values reached ∧
        runFrom (change item) reached = (.error failure, last) := by
  induction items generalizing state with
  | nil => simp [runFrom_pure]
  | cons first rest inductionHypothesis =>
    rw [List.mapM_cons, runFrom_bind_eq_error_iff]
    constructor
    · rintro (fails | ⟨value, next, succeeds, behind⟩)
      · exact ⟨[], first, rest, [], state, rfl, .nil state, fails⟩
      · rcases (runFrom_bind_eq_error_iff _ _ _ _ _).mp behind with
          restFails | ⟨_, _, _, returned⟩
        · obtain ⟨earlier, item, later, values, reached, rfl, through, fails⟩ :=
            (inductionHypothesis next).mp restFails
          exact ⟨first :: earlier, item, later, value :: values, reached, rfl,
            .cons state first value next earlier values reached succeeds through, fails⟩
        · cases returned
    · rintro ⟨earlier, item, later, values, reached, split, through, fails⟩
      cases through with
      | nil =>
        obtain ⟨rfl, rfl⟩ := List.cons.inj split
        exact .inl fails
      | cons _ other value next others values last succeeds through =>
        obtain ⟨rfl, rfl⟩ := List.cons.inj split
        refine .inr ⟨value, next, succeeds, (runFrom_bind_eq_error_iff _ _ _ _ _).mpr (.inl ?_)⟩
        exact (inductionHypothesis next).mpr
          ⟨others, item, later, values, reached, rfl, through, fails⟩

end PlaneFigure
