import Mathlib.Data.List.Basic

/-!
# The last word

Items are taken one after the other, and some of them set a value afresh. What the value is in
the end was said by the last of these items, whatever stands between them, in front of them and
behind the last one. If none of the items says anything, the value is the one from the beginning.

What is preserved from step to step is therefore not the value itself but how it depends on the
items so far. Several values that are set independently of each other each have a last word of
their own, so the order of items that concern different values does not matter.
-/

namespace PlaneFigure

variable {ι σ β : Type}

/-- What the last item says that says anything. -/
def lastWord? (word : ι → Option β) (items : List ι) : Option β := (items.filterMap word).getLast?

/-- The last word stands behind everything else that is said. -/
theorem lastWord?_eq_some_iff (word : ι → Option β) (items : List ι) (value : β) :
    lastWord? word items = some value ↔
      ∃ before item after, items = before ++ item :: after ∧ word item = some value ∧
        ∀ later ∈ after, word later = none := by
  rw [lastWord?, List.getLast?_filterMap, List.findSome?_eq_some_iff]
  constructor
  · rintro ⟨after, item, before, reversed, said, silent⟩
    refine ⟨before.reverse, item, after.reverse, ?_, said, ?_⟩
    · simpa using congrArg List.reverse reversed
    · simpa using silent
  · rintro ⟨before, item, after, rfl, said, silent⟩
    exact ⟨after.reverse, item, before.reverse, by simp, said, by simpa using silent⟩

/-- There is no last word if nothing is said. -/
theorem lastWord?_eq_none_iff (word : ι → Option β) (items : List ι) :
    lastWord? word items = none ↔ ∀ item ∈ items, word item = none := by
  rw [lastWord?, List.getLast?_eq_none_iff, List.filterMap_eq_nil_iff]

/-- Of items in two rows those in the second one have the last word. -/
theorem lastWord?_append (word : ι → Option β) (before after : List ι) :
    lastWord? word (before ++ after) = (lastWord? word after).or (lastWord? word before) := by
  rw [lastWord?, List.filterMap_append, List.getLast?_append]
  rfl

/-- The first item has the last word if no other one says anything. -/
theorem lastWord?_cons (word : ι → Option β) (item : ι) (rest : List ι) :
    lastWord? word (item :: rest) = (lastWord? word rest).or (word item) := by
  have single : lastWord? word [item] = word item := by
    cases said : word item <;> simp [lastWord?, said]
  rw [← List.singleton_append, lastWord?_append, single]

/-- Items that say nothing can be left out. -/
theorem lastWord?_filter (word : ι → Option β) (relevant : ι → Bool) (items : List ι)
    (silent : ∀ item, relevant item = false → word item = none) :
    lastWord? word (items.filter relevant) = lastWord? word items := by
  have skipped : (fun item => if relevant item = true then word item else none) = word := by
    funext item
    by_cases counts : relevant item = true
    · rw [if_pos counts]
    · rw [if_neg counts, silent item (Bool.eq_false_iff.mpr counts)]
  rw [lastWord?, List.filterMap_filter, skipped, lastWord?]

/-- A value that may be missing. If every step sets it to what its item says, or else leaves it as
it is, then a run sets it to the last word. -/
theorem view?_foldl (view? : σ → Option β) (step : σ → ι → σ) (word : ι → Option β)
    (steps : ∀ state item, view? (step state item) = (word item).or (view? state))
    (items : List ι) (state : σ) :
    view? (items.foldl step state) = (lastWord? word items).or (view? state) := by
  induction items generalizing state with
  | nil => rfl
  | cons item rest inductionHypothesis =>
    rw [List.foldl_cons, inductionHypothesis, steps, lastWord?_cons, Option.or_assoc]

/-- If every step sets a value to what its item says, or else leaves it as it is, then a run sets it
to the last word. -/
theorem view_foldl (view : σ → β) (step : σ → ι → σ) (word : ι → Option β)
    (steps : ∀ state item, view (step state item) = (word item).getD (view state))
    (items : List ι) (state : σ) :
    view (items.foldl step state) = (lastWord? word items).getD (view state) := by
  have present (given : Option β) (other : β) :
      given.or (some other) = some (given.getD other) := by
    cases given <;> rfl
  have run := view?_foldl (fun state => some (view state)) step word
    (fun state item => by rw [steps, present]) items state
  rw [present] at run
  exact Option.some.inj run

end PlaneFigure
