import PlaneFigure.Proofs.Diagram.Stated

/-!
# When synthesis fails

Synthesis displays the operands of stated facts and nothing else, hypothesis by hypothesis and
within a hypothesis from the first operand to the last. It fails at the first operand that is
not displayed, with the failure of that operand, and what the display does on any other term
makes no difference.

The operands of a fact are displayed before any of them is introduced, and a failure carries
nothing of the diagram. So the diagrams that a failing run leads through are those of the
hypotheses in front of the one that it fails at: these are taken as if they were all there are,
and the failing one adds nothing before it fails.
-/

namespace PlaneFigure

open Term (Printer Undisplayable)

/-- The operands of the facts that a hypothesis states, in order. -/
def Hypothesis.operands (hypothesis : Hypothesis) : List Term :=
  hypothesis.type.facts.flatMap Fact.operands

/-- The operands of the facts that hypotheses state, in order. -/
def operandsOf (hypotheses : List Hypothesis) : List Term :=
  hypotheses.flatMap Hypothesis.operands

/-- The diagrams that a run leads through, from the one that it starts from to the last one
before it ends or fails. -/
def Diagram.trail (printer : Printer) (diagram : Diagram) : List Hypothesis → List Diagram
  | [] => [diagram]
  | hypothesis :: rest =>
    diagram ::
      match diagram.step printer hypothesis with
      | .ok next => next.trail printer rest
      | .error _ => []

/-- The operands of hypotheses are those of the facts that they state. -/
theorem operandsOf_eq (hypotheses : List Hypothesis) :
    operandsOf hypotheses = (stated hypotheses).flatMap Fact.operands :=
  List.flatMap_assoc.symm

/-- Drawing facts one after the other fails where displaying their operands fails first. The
induction follows the facts: the first one fails, and then it decides, or all its operands are
displayed, and then the rest does. -/
theorem foldlM_takeFact_eq_error_iff (printer : Printer) (facts : List (Fact Term))
    (diagram : Diagram) (failure : Undisplayable) :
    facts.foldlM (Diagram.takeFact printer) diagram = .error failure ↔
      FailsFirst printer (facts.flatMap Fact.operands) failure := by
  induction facts generalizing diagram with
  | nil => simp [failsFirst_iff, pure, Except.pure]
  | cons fact rest inductionHypothesis =>
    rw [List.foldlM_cons, List.flatMap_cons]
    cases draws : diagram.takeFact printer fact with
    | error reported =>
      have first := (diagram.takeFact_eq_error_iff printer fact reported).mp draws
      rw [failsFirst_iff] at first
      rw [failsFirst_iff, List.findSome?_append, first]
      exact ⟨fun fails => congrArg some (Except.error.inj fails),
        fun fails => congrArg Except.error (Option.some.inj fails)⟩
    | ok next =>
      -- The first failure is not in front, so both sides move on to the rest.
      obtain ⟨displays, _⟩ := (diagram.takeFact_eq_ok_iff printer fact next).mp draws
      have clear : fact.operands.findSome? (fun operand => failure? (printer operand)) = none := by
        rw [List.findSome?_eq_none_iff]
        intro operand member
        exact (failure?_eq_none_iff _).mpr (displays operand member)
      rw [failsFirst_iff, List.findSome?_append, clear, Option.none_or, ← failsFirst_iff]
      exact inductionHypothesis next

/-- A run from the blank diagram fails at the first hypothesis with an operand that is not
displayed, and the failure is that of the first such operand. -/
theorem run_eq_error_iff (printer : Printer) (hypotheses : List Hypothesis)
    (failure : Undisplayable) :
    hypotheses.foldlM (Diagram.step printer) .blank = .error failure ↔
      ∃ before failing after, hypotheses = before ++ failing :: after ∧
        Displays printer (stated before) ∧ FailsFirst printer failing.operands failure := by
  rw [foldlM_eq_error_iff]
  constructor
  · rintro ⟨before, failing, after, last, split, runs, fails⟩
    exact ⟨before, failing, after, split, (run_succeeds_iff printer before).mp ⟨last, runs⟩,
      (foldlM_takeFact_eq_error_iff printer failing.type.facts last failure).mp fails⟩
  · rintro ⟨before, failing, after, split, displays, fails⟩
    exact ⟨before, failing, after, _, split, run_eq_drawn printer before displays,
      (foldlM_takeFact_eq_error_iff printer failing.type.facts _ failure).mpr fails⟩

/-- Synthesis fails as the run over its hypotheses does. -/
theorem synthesize_eq_error_iff (printer : Printer) (hypotheses : List Hypothesis)
    (failure : Undisplayable) :
    synthesize printer hypotheses = .error failure ↔
      hypotheses.foldlM (Diagram.step printer) .blank = .error failure := by
  unfold synthesize
  cases hypotheses.foldlM (Diagram.step printer) .blank <;>
    simp [bind, Except.bind, pure, Except.pure]

/-- Synthesis fails where the display fails first on the operands. -/
theorem synthesize_eq_error_iff_failsFirst (printer : Printer) (hypotheses : List Hypothesis)
    (failure : Undisplayable) :
    synthesize printer hypotheses = .error failure ↔
      FailsFirst printer (operandsOf hypotheses) failure := by
  rw [synthesize_eq_error_iff, foldlM_step, foldlM_takeFact_eq_error_iff, operandsOf_eq]

/-- Not every operand of some facts is displayed if the display fails on one of them. -/
theorem not_displays_iff (printer : Printer) (facts : List (Fact Term)) :
    ¬ Displays printer facts ↔
      ∃ fact ∈ facts, ∃ operand ∈ fact.operands, ∃ failure, printer operand = .error failure := by
  have fails : ∀ operand, ¬ (printer operand).isOk = true ↔
      ∃ failure, printer operand = .error failure := by
    intro operand
    cases printer operand <;> simp [Except.isOk, Except.toBool]
  simp only [Displays, not_forall, exists_prop, fails]

/-- Synthesis fails exactly if the display fails on an operand of a fact that some hypothesis
states. -/
theorem synthesize_fails_iff (printer : Printer) (hypotheses : List Hypothesis) :
    (∃ failure, synthesize printer hypotheses = .error failure) ↔
      ∃ hypothesis ∈ hypotheses, ∃ fact ∈ hypothesis.type.facts, ∃ operand ∈ fact.operands,
        ∃ failure, printer operand = .error failure := by
  have either : (∃ failure, synthesize printer hypotheses = .error failure) ↔
      ¬ ∃ result, synthesize printer hypotheses = .ok result := by
    cases synthesize printer hypotheses <;> simp
  rw [either, synthesize_succeeds_iff, not_displays_iff]
  constructor
  · rintro ⟨fact, states, fails⟩
    obtain ⟨hypothesis, member, among⟩ := List.mem_flatMap.mp states
    exact ⟨hypothesis, member, fact, among, fails⟩
  · rintro ⟨hypothesis, member, fact, among, fails⟩
    exact ⟨fact, List.mem_flatMap.mpr ⟨hypothesis, member, among⟩, fails⟩

/-- Displays that agree on the operands of stated facts make no difference for synthesis. -/
theorem synthesize_congr (printer other : Printer) (hypotheses : List Hypothesis)
    (same : ∀ hypothesis ∈ hypotheses, ∀ operand ∈ hypothesis.operands,
      printer operand = other operand) :
    synthesize printer hypotheses = synthesize other hypotheses := by
  have steps : ∀ hypothesis ∈ hypotheses, ∀ diagram : Diagram,
      diagram.step printer hypothesis = diagram.step other hypothesis := by
    intro hypothesis member diagram
    apply foldlM_congr
    intro fact states reached
    rw [Diagram.takeFact, Diagram.takeFact, fact.mapM_congr printer other fun operand among =>
      same hypothesis member operand (List.mem_flatMap.mpr ⟨fact, states, among⟩)]
  unfold synthesize
  rw [foldlM_congr _ _ hypotheses .blank steps]

/-- Where a run fails, its trail ends. -/
theorem Diagram.trail_of_failing (printer : Printer) (before after : List Hypothesis)
    (failing : Hypothesis) (failure : Undisplayable) (diagram last : Diagram)
    (runs : before.foldlM (Diagram.step printer) diagram = .ok last)
    (fails : last.step printer failing = .error failure) :
    diagram.trail printer (before ++ failing :: after) = diagram.trail printer before := by
  induction before generalizing diagram with
  | nil =>
    obtain rfl : diagram = last := Except.ok.inj runs
    simp [trail, fails]
  | cons hypothesis rest inductionHypothesis =>
    rw [List.foldlM_cons, bind_eq_ok_iff] at runs
    obtain ⟨next, steps, later⟩ := runs
    simp only [List.cons_append, trail, steps, inductionHypothesis next later]

/-- The trail of a run that does not fail ends with its last diagram. -/
theorem Diagram.getLast?_trail (printer : Printer) (hypotheses : List Hypothesis)
    (diagram last : Diagram)
    (runs : hypotheses.foldlM (Diagram.step printer) diagram = .ok last) :
    (diagram.trail printer hypotheses).getLast? = some last := by
  induction hypotheses generalizing diagram with
  | nil =>
    obtain rfl : diagram = last := Except.ok.inj runs
    rfl
  | cons hypothesis rest inductionHypothesis =>
    rw [List.foldlM_cons, bind_eq_ok_iff] at runs
    obtain ⟨next, steps, later⟩ := runs
    simp only [trail, steps, List.getLast?_cons, inductionHypothesis next later]
    rfl

/-- Synthesis fails exactly if the display fails on an operand of a fact that some hypothesis
states, and then with the failure at the first such operand, in the order of the hypotheses and
then of the operands; the failure is all that is returned. Displays that agree on these operands,
whatever they do on other terms, give the same outcome. When the display fails first at an
operand of one hypothesis, the run leads through the diagrams of the hypotheses in front of it
and through no others: these hypotheses are taken without failure, and it is the step from the
last of these diagrams that fails. -/
theorem synthesize_fails_first (printer : Printer) (hypotheses : List Hypothesis) :
    ((∃ failure, synthesize printer hypotheses = .error failure) ↔
      ∃ hypothesis ∈ hypotheses, ∃ fact ∈ hypothesis.type.facts, ∃ operand ∈ fact.operands,
        ∃ failure, printer operand = .error failure) ∧
    (∀ failure, synthesize printer hypotheses = .error failure ↔
      ∃ before failing after, hypotheses = before ++ failing :: after ∧
        Displays printer (stated before) ∧ FailsFirst printer failing.operands failure) ∧
    (∀ other : Printer,
      (∀ hypothesis ∈ hypotheses, ∀ operand ∈ hypothesis.operands,
        printer operand = other operand) →
      synthesize printer hypotheses = synthesize other hypotheses) ∧
    ∀ before failing after failure, hypotheses = before ++ failing :: after →
      Displays printer (stated before) → FailsFirst printer failing.operands failure →
      hypotheses.foldlM (Diagram.step printer) .blank = .error failure ∧
      Diagram.blank.trail printer hypotheses = Diagram.blank.trail printer before ∧
      ∃ last, before.foldlM (Diagram.step printer) .blank = .ok last ∧
        (Diagram.blank.trail printer before).getLast? = some last ∧
        last.step printer failing = .error failure := by
  refine ⟨synthesize_fails_iff printer hypotheses, ?_,
    fun other => synthesize_congr printer other hypotheses, ?_⟩
  · intro failure
    rw [synthesize_eq_error_iff, run_eq_error_iff]
  · rintro before failing after failure rfl displays fails
    have runs := run_eq_drawn printer before displays
    have stops : (drawn printer before).step printer failing = .error failure :=
      (foldlM_takeFact_eq_error_iff printer failing.type.facts _ failure).mpr fails
    exact ⟨(run_eq_error_iff printer _ failure).mpr
        ⟨before, failing, after, rfl, displays, fails⟩,
      Diagram.trail_of_failing printer before after failing failure _ _ runs stops, _, runs,
      Diagram.getLast?_trail printer before _ _ runs, stops⟩

/-- A display that refuses one variable more than another display. -/
def Term.refusingAlso (name : String) (printer : Printer) : Printer := fun term =>
  if term = var name then .error ⟨name, "refused"⟩ else printer term

/-- Hypotheses with `x` in a type that states nothing, in the middle of a fact behind `y`, and
in front of a later fact. -/
def halting : List Hypothesis :=
  [⟨⟨"h1"⟩, "h1", .apply "Eq" [.var "x", .var "z"]⟩,
    ⟨⟨"h2"⟩, "h2", .apply "OnLine" [.var "a", .var "L"]⟩,
    ⟨⟨"h3"⟩, "h3", .apply "Between" [.var "c", .var "y", .var "x"]⟩,
    ⟨⟨"h4"⟩, "h4", .apply "OnLine" [.var "x", .var "M"]⟩]

/-- The display refuses `x` and `y`, and `y` comes first in a fact. Refusing `z` as well makes no
difference. The point `c` in front of `y` is displayed and nevertheless not introduced. -/
theorem synthesize_fails_first_halting :
    synthesize (Term.refusingAlso "x" (Term.refusing "y")) halting = .error ⟨"y", "refused"⟩ ∧
    synthesize (Term.refusingAlso "z" (Term.refusingAlso "x" (Term.refusing "y"))) halting =
      .error ⟨"y", "refused"⟩ ∧
    (Diagram.blank.trail (Term.refusingAlso "x" (Term.refusing "y")) halting).map
        (·.program.lines) =
      [[.autoLabel], [.autoLabel],
        [.autoLabel, .declare .point "a", .declare .line "L", .fact (.onLine "a" "L")]] := by
  have displays : Displays (Term.refusingAlso "x" (Term.refusing "y"))
      (stated (halting.take 2)) := by
    decide
  have fails : FailsFirst (Term.refusingAlso "x" (Term.refusing "y"))
      (Hypothesis.operands ⟨⟨"h3"⟩, "h3", .apply "Between" [.var "c", .var "y", .var "x"]⟩)
      ⟨"y", "refused"⟩ :=
    ⟨[.var "c"], .var "y", [.var "x"], by decide, by decide, by decide⟩
  obtain ⟨_, first, unobserved, leads⟩ :=
    synthesize_fails_first (Term.refusingAlso "x" (Term.refusing "y")) halting
  have refuses := (first _).mpr ⟨_, _, _, rfl, displays, fails⟩
  have same := unobserved (Term.refusingAlso "z" (Term.refusingAlso "x" (Term.refusing "y")))
    (by decide)
  obtain ⟨_, trail, _⟩ := leads _ _ _ _ rfl displays fails
  refine ⟨refuses, same.symm.trans refuses, ?_⟩
  rw [trail]
  decide

end PlaneFigure
