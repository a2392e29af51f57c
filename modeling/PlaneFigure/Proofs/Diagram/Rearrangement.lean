import PlaneFigure.Proofs.Diagram.Failure
import PlaneFigure.Proofs.Diagram.Kinds

/-!
# Hypotheses in another order

The lines of a program follow the order of the hypotheses, and declarations move to whichever
fact comes first. What a program says does not depend on that order: it has the same facts as
often, and it declares the same keys. Whether there is a diagram at all, or a failure, does not
depend on it either; which failure is reported does.

What a key is declared as does depend on the order if the key is used at positions of two
kinds, because the first one decides. If no key is, both programs have the same lines, only
rearranged.
-/

namespace PlaneFigure

open Term (Printer)
open scoped List

/-- Lines without a header are declarations and facts, in some order. -/
theorem headless_perm (lines : List Line) (headless : .autoLabel ∉ lines) :
    lines.Perm ((lines.filterMap Line.declared?).map Line.ofOperand ++
      (lines.filterMap Line.fact?).map Line.fact) := by
  induction lines with
  | nil => exact .nil
  | cons line rest inductionHypothesis =>
    obtain ⟨notHeader, headlessRest⟩ := List.ne_and_not_mem_of_not_mem_cons headless
    have others := inductionHypothesis headlessRest
    cases line with
    | autoLabel => exact absurd rfl notHeader
    | declare kind key => exact others.cons _
    | fact stated => exact (others.cons _).trans List.perm_middle.symm

/-- A diagram that is in step has the header, its declarations and its facts for lines. -/
theorem InStep.lines_perm {diagram : Diagram} (inStep : InStep diagram) :
    diagram.program.lines.Perm (.autoLabel :: (diagram.program.declared.map Line.ofOperand ++
      diagram.program.facts.map Line.fact)) := by
  obtain ⟨rest, lines, headless⟩ := inStep.header
  rw [Program.declared, Program.facts, lines, List.filterMap_cons_none rfl,
    List.filterMap_cons_none rfl]
  exact (headless_perm rest headless).cons _

/-- Synthesis yields no diagram exactly if the hypotheses state nothing. -/
theorem synthesize_eq_none_iff (printer : Printer) (hypotheses : List Hypothesis) :
    synthesize printer hypotheses = .ok none ↔ stated hypotheses = [] := by
  constructor
  · intro succeeds
    have vacant := (result_of_synthesize printer hypotheses none succeeds).1.mp rfl
    exact List.map_eq_nil_iff.mp vacant
  · intro silent
    have displays : Displays printer (stated hypotheses) := by
      rw [silent]
      exact List.forall_mem_nil _
    obtain ⟨result, succeeds⟩ := (synthesize_succeeds_iff printer hypotheses).mpr displays
    have vacant := (result_of_synthesize printer hypotheses result succeeds).1.mpr
      (List.map_eq_nil_iff.mpr silent)
    rw [succeeds, vacant]

/-- If the kinds of keys agree, a synthesized program declares the operands of its facts with the
kinds of their positions, and nothing else. -/
theorem mem_declared_iff_of_kindsAgree (printer : Printer) (hypotheses : List Hypothesis)
    (diagram : Diagram) (succeeds : synthesize printer hypotheses = .ok (some diagram))
    (agree : KindsAgree diagram.program.facts) (operand : Kind × String) :
    operand ∈ diagram.program.declared ↔
      operand ∈ diagram.program.facts.flatMap Fact.typedOperands := by
  constructor
  · intro declared
    rw [declared_of_synthesize printer hypotheses diagram succeeds] at declared
    exact (newcomers_sublist Prod.snd [] _).subset declared
  · exact declared_of_kindsAgree printer hypotheses diagram succeeds agree operand

/-- Programs with the same facts declare the same objects if the kinds of keys agree: no object
is declared twice, and which ones are declared does not depend on the order of the facts. -/
theorem declared_perm (printer : Printer) (hypotheses rearranged : List Hypothesis)
    (left right : Diagram) (succeeds : synthesize printer hypotheses = .ok (some left))
    (alsoSucceeds : synthesize printer rearranged = .ok (some right))
    (same : left.program.facts.Perm right.program.facts)
    (agree : KindsAgree left.program.facts) :
    left.program.declared.Perm right.program.declared := by
  have operands : (left.program.facts.flatMap Fact.typedOperands).Perm
      (right.program.facts.flatMap Fact.typedOperands) := same.flatMap_right _
  have alsoAgree : KindsAgree right.program.facts := by
    simpa only [KindsAgree, operands.mem_iff] using agree
  have distinct := (reachable_of_synthesize printer hypotheses left succeeds).inStep.distinct
  have alsoDistinct :=
    (reachable_of_synthesize printer rearranged right alsoSucceeds).inStep.distinct
  rw [List.perm_ext_iff_of_nodup (.of_map _ distinct) (.of_map _ alsoDistinct)]
  intro operand
  rw [mem_declared_iff_of_kindsAgree printer hypotheses left succeeds agree,
    mem_declared_iff_of_kindsAgree printer rearranged right alsoSucceeds alsoAgree,
    operands.mem_iff]

/-- Hypotheses in another order fail if they did before, and have no diagram if they had none.
When both orders give diagrams, these have the same facts, each as often, and declare the same
keys. If moreover no key is used at positions of two kinds, all their lines are the same up to
order, and every key has an object of the same kind. -/
theorem synthesize_perm (printer : Printer) (hypotheses rearranged : List Hypothesis)
    (permuted : hypotheses.Perm rearranged) :
    ((∃ failure, synthesize printer hypotheses = .error failure) ↔
      ∃ failure, synthesize printer rearranged = .error failure) ∧
    (synthesize printer hypotheses = .ok none ↔ synthesize printer rearranged = .ok none) ∧
    ∀ left right, synthesize printer hypotheses = .ok (some left) →
      synthesize printer rearranged = .ok (some right) →
      left.program.facts.Perm right.program.facts ∧
      (∀ key, key ∈ left.program.declared.map Prod.snd ↔
        key ∈ right.program.declared.map Prod.snd) ∧
      (KindsAgree (keyed printer (stated hypotheses)) →
        left.program.lines.Perm right.program.lines ∧
        ∀ key, (left.registry.get? key).map (·.kind) = (right.registry.get? key).map (·.kind)) := by
  have states : (stated hypotheses).Perm (stated rearranged) := permuted.flatMap_right _
  refine ⟨?_, ?_, ?_⟩
  · simp only [synthesize_fails_iff, permuted.mem_iff]
  · rw [synthesize_eq_none_iff, synthesize_eq_none_iff, ← List.length_eq_zero_iff,
      states.length_eq, List.length_eq_zero_iff]
  · intro left right succeeds alsoSucceeds
    have same : left.program.facts.Perm right.program.facts := by
      rw [facts_of_synthesize printer hypotheses left succeeds,
        facts_of_synthesize printer rearranged right alsoSucceeds]
      exact states.map _
    refine ⟨same, ?_, ?_⟩
    · intro key
      rw [mem_keys_declared printer hypotheses left succeeds,
        mem_keys_declared printer rearranged right alsoSucceeds]
      simp only [same.mem_iff]
    · intro agree
      rw [← facts_of_synthesize printer hypotheses left succeeds] at agree
      have inStep := (reachable_of_synthesize printer hypotheses left succeeds).inStep
      have alsoInStep := (reachable_of_synthesize printer rearranged right alsoSucceeds).inStep
      have declares :=
        declared_perm printer hypotheses rearranged left right succeeds alsoSucceeds same agree
      have lines : left.program.lines.Perm right.program.lines :=
        calc left.program.lines
          _ ~ .autoLabel :: (left.program.declared.map Line.ofOperand ++
                left.program.facts.map Line.fact) := inStep.lines_perm
          _ ~ .autoLabel :: (right.program.declared.map Line.ofOperand ++
                right.program.facts.map Line.fact) :=
              ((declares.map _).append (same.map _)).cons _
          _ ~ right.program.lines := alsoInStep.lines_perm.symm
      refine ⟨lines, ?_⟩
      intro key
      apply Option.ext
      intro kind
      rw [inStep.registered_kind_iff, alsoInStep.registered_kind_iff, lines.mem_iff]

/-- Turned around, hypotheses of which two state the same fact still state it twice, and declare
the points of the last fact first. -/
theorem synthesize_perm_reverse :
    repeated.Perm repeated.reverse ∧
    ∃ left right, synthesize Term.plain repeated = .ok (some left) ∧
      synthesize Term.plain repeated.reverse = .ok (some right) ∧
      left.program.lines ≠ right.program.lines ∧
      left.program.lines.Perm right.program.lines := by
  have permuted : repeated.Perm repeated.reverse := (List.reverse_perm _).symm
  have succeeds := synthesize_eq_some_drawn Term.plain repeated (by decide) (by decide)
  have alsoSucceeds :=
    synthesize_eq_some_drawn Term.plain repeated.reverse (by decide) (by decide)
  obtain ⟨_, _, content⟩ := synthesize_perm Term.plain repeated repeated.reverse permuted
  obtain ⟨_, _, agreeing⟩ := content _ _ succeeds alsoSucceeds
  exact ⟨permuted, _, _, succeeds, alsoSucceeds, by decide, (agreeing (by decide)).1⟩

end PlaneFigure
