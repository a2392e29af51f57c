import PlaneFigure.Proofs.Diagram.ProgramLines
import PlaneFigure.Proofs.Goal.Selection

/-!
# Diagrams of the hypotheses that are not withheld

Withholding hypotheses takes away their facts and nothing else. The facts that remain are told
apart by the hypotheses that contribute them, so a fact that is equal to one taken away stays
if another hypothesis contributes it too. What is declared follows from the facts that remain:
an object whose first occurrence is taken away is declared in front of a later fact, and one
that occurs nowhere else is not declared any more.

A key may be used at positions of two kinds, and is then declared with the kind of its first
occurrence. Withholding can make another occurrence the first one. If no key is used in two
ways, a program with hypotheses withheld declares nothing that the full one does not declare
alike.
-/

namespace PlaneFigure

open Term (Printer)

/-- The facts that hypotheses contribute to a diagram, in order, each with the identity of the
hypothesis that contributes it. -/
def contributed (printer : Printer) (hypotheses : List Hypothesis) :
    List (HypothesisId × Fact String) :=
  hypotheses.flatMap fun hypothesis =>
    (keyed printer hypothesis.type.facts).map (hypothesis.id, ·)

/-- The facts that a synthesis puts into its diagram; without a diagram there are none. -/
def drawnFacts (result : Option Diagram) : List (Fact String) :=
  (result.map fun diagram => diagram.program.facts).getD []

/-- No key is an operand at positions of two kinds. -/
def KindsAgree (facts : List (Fact String)) : Prop :=
  ∀ operand ∈ facts.flatMap Fact.typedOperands, ∀ other ∈ facts.flatMap Fact.typedOperands,
    operand.2 = other.2 → operand.1 = other.1

instance (facts : List (Fact String)) : Decidable (KindsAgree facts) :=
  inferInstanceAs (Decidable (∀ operand ∈ facts.flatMap Fact.typedOperands,
    ∀ other ∈ facts.flatMap Fact.typedOperands, operand.2 = other.2 → operand.1 = other.1))

/-- The contributed facts are the stated ones with their keys. -/
theorem map_snd_contributed (printer : Printer) (hypotheses : List Hypothesis) :
    (contributed printer hypotheses).map Prod.snd = keyed printer (stated hypotheses) := by
  simp only [contributed, keyed, stated, List.map_flatMap, List.map_map]
  rfl

/-- Visible hypotheses contribute what they contribute among all others. -/
theorem contributed_visible (printer : Printer) (hypotheses : List Hypothesis)
    (locations : List Location) :
    contributed printer (visible hypotheses locations) =
      (contributed printer hypotheses).filter fun given => Unnamed locations given.1 := by
  rw [visible_eq_filter]
  induction hypotheses with
  | nil => rfl
  | cons hypothesis rest inductionHypothesis =>
    have own : contributed printer (hypothesis :: rest) =
        (keyed printer hypothesis.type.facts).map (hypothesis.id, ·) ++
          contributed printer rest := rfl
    rw [own, List.filter_append, ← inductionHypothesis]
    -- All facts of a hypothesis carry its identity, so they are kept or dropped with it.
    by_cases spared : Unnamed locations hypothesis.id
    · have kept : ((keyed printer hypothesis.type.facts).map (hypothesis.id, ·)).filter
          (fun given => Unnamed locations given.1) =
            (keyed printer hypothesis.type.facts).map (hypothesis.id, ·) := by
        simp [List.filter_eq_self, spared]
      rw [kept, List.filter_cons_of_pos (by simpa using spared)]
      rfl
    · have dropped : ((keyed printer hypothesis.type.facts).map (hypothesis.id, ·)).filter
          (fun given => Unnamed locations given.1) = [] := by
        simp [List.filter_eq_nil_iff, spared]
      rw [dropped, List.filter_cons_of_neg (by simpa using spared), List.nil_append]

/-- Synthesis puts the contributed facts into its diagram. -/
theorem drawnFacts_of_synthesize (printer : Printer) (hypotheses : List Hypothesis)
    (result : Option Diagram) (succeeds : synthesize printer hypotheses = .ok result) :
    drawnFacts result = (contributed printer hypotheses).map Prod.snd := by
  obtain ⟨vacant, _⟩ := result_of_synthesize printer hypotheses result succeeds
  rw [map_snd_contributed]
  cases result with
  | none => exact (vacant.mp rfl).symm
  | some diagram => exact facts_of_synthesize printer hypotheses diagram succeeds

/-- A synthesized diagram has a fact. -/
theorem facts_ne_nil (printer : Printer) (hypotheses : List Hypothesis) (diagram : Diagram)
    (succeeds : synthesize printer hypotheses = .ok (some diagram)) :
    diagram.program.facts ≠ [] := by
  obtain ⟨vacant, _⟩ := result_of_synthesize printer hypotheses _ succeeds
  rw [facts_of_synthesize printer hypotheses diagram succeeds]
  intro nothing
  cases vacant.mpr nothing

/-- A synthesized program declares the newcomers among the operands of its facts. -/
theorem declared_of_synthesize (printer : Printer) (hypotheses : List Hypothesis)
    (diagram : Diagram) (succeeds : synthesize printer hypotheses = .ok (some diagram)) :
    diagram.program.declared =
      newcomers Prod.snd [] (diagram.program.facts.flatMap Fact.typedOperands) := by
  obtain rfl := (result_of_synthesize printer hypotheses _ succeeds).2 diagram rfl
  rw [drawn_declared, drawn_facts]

/-- The operands of facts are those that have a kind by their position. -/
theorem mem_keys_typedOperands (facts : List (Fact String)) (key : String) :
    key ∈ (facts.flatMap Fact.typedOperands).map Prod.snd ↔
      ∃ fact ∈ facts, key ∈ fact.operands := by
  simp only [List.map_flatMap, Fact.map_snd_typedOperands, List.mem_flatMap]

/-- A synthesized program declares exactly the operands of its facts. -/
theorem mem_keys_declared (printer : Printer) (hypotheses : List Hypothesis)
    (diagram : Diagram) (succeeds : synthesize printer hypotheses = .ok (some diagram))
    (key : String) :
    key ∈ diagram.program.declared.map Prod.snd ↔
      ∃ fact ∈ diagram.program.facts, key ∈ fact.operands := by
  rw [declared_of_synthesize printer hypotheses diagram succeeds, mem_keys_newcomers,
    mem_keys_typedOperands]
  simp

/-- If the kinds of keys agree, an operand of a drawn fact is declared with the kind of its
position. The object with its key has the kind of some position at which the key occurs, and
that is the same kind. -/
theorem declared_of_kindsAgree (printer : Printer) (hypotheses : List Hypothesis)
    (diagram : Diagram) (succeeds : synthesize printer hypotheses = .ok (some diagram))
    (agree : KindsAgree diagram.program.facts) (operand : Kind × String)
    (occurs : operand ∈ diagram.program.facts.flatMap Fact.typedOperands) :
    operand ∈ diagram.program.declared := by
  have newcomer := declared_of_synthesize printer hypotheses diagram succeeds
  have known : operand.2 ∈ diagram.program.declared.map Prod.snd := by
    rw [mem_keys_declared printer hypotheses diagram succeeds, ← mem_keys_typedOperands]
    exact List.mem_map_of_mem occurs
  obtain ⟨object, declared, sameKey⟩ := List.mem_map.mp known
  have position : object ∈ diagram.program.facts.flatMap Fact.typedOperands :=
    (newcomers_sublist Prod.snd [] _).subset (newcomer ▸ declared)
  have sameKind := agree object position operand occurs sameKey
  obtain rfl : object = operand := Prod.ext sameKind sameKey
  exact declared

/-- A diagram whose facts are all among those of another one declares nothing that the other
does not declare alike, if the kinds of keys agree there. -/
theorem declares_of_subset (printer : Printer) (hypotheses fewer : List Hypothesis)
    (full diagram : Diagram) (succeeds : synthesize printer hypotheses = .ok (some full))
    (alsoSucceeds : synthesize printer fewer = .ok (some diagram))
    (among : diagram.program.facts ⊆ full.program.facts) (agree : KindsAgree full.program.facts)
    (kind : Kind) (key : String) (declares : .declare kind key ∈ diagram.program.lines) :
    .declare kind key ∈ full.program.lines := by
  have newcomer := (diagram.program.mem_declared kind key).mpr declares
  rw [declared_of_synthesize printer fewer diagram alsoSucceeds] at newcomer
  obtain ⟨fact, member, position⟩ :=
    List.mem_flatMap.mp ((newcomers_sublist Prod.snd [] _).subset newcomer)
  have occurs : (kind, key) ∈ full.program.facts.flatMap Fact.typedOperands :=
    List.mem_flatMap.mpr ⟨fact, among member, position⟩
  exact (full.program.mem_declared kind key).mp
    (declared_of_kindsAgree printer hypotheses full succeeds agree (kind, key) occurs)

/-- If synthesis does not fail, it does not fail either with the hypotheses withheld that some
location names. The facts that it draws then are those of the full diagram that are contributed
by other hypotheses, in the same order and as often as before. There is no diagram exactly if
no visible hypothesis states a fact. A diagram declares exactly the operands of the facts that
remain, and if no key is used at positions of two kinds, it declares nothing that the full
diagram does not declare alike. -/
theorem synthesize_visible (printer : Printer) (hypotheses : List Hypothesis)
    (locations : List Location) (result : Option Diagram)
    (succeeds : synthesize printer hypotheses = .ok result) :
    drawnFacts result = (contributed printer hypotheses).map Prod.snd ∧
    ∃ remaining, synthesize printer (visible hypotheses locations) = .ok remaining ∧
      drawnFacts remaining =
        ((contributed printer hypotheses).filter fun given => Unnamed locations given.1).map
          Prod.snd ∧
      (remaining = none ↔
        ∀ hypothesis ∈ hypotheses, Unnamed locations hypothesis.id →
          hypothesis.type.facts = []) ∧
      ∀ diagram, remaining = some diagram →
        (∀ key, key ∈ diagram.program.declared.map Prod.snd ↔
          ∃ fact ∈ diagram.program.facts, key ∈ fact.operands) ∧
        (KindsAgree (drawnFacts result) → ∃ full, result = some full ∧
          ∀ kind key, .declare kind key ∈ diagram.program.lines →
            .declare kind key ∈ full.program.lines) := by
  have displays := (synthesize_succeeds_iff printer hypotheses).mp ⟨result, succeeds⟩
  have fewer := visible_sublist hypotheses locations
  have remains : Displays printer (stated (visible hypotheses locations)) := by
    intro fact among
    obtain ⟨hypothesis, member, states⟩ := List.mem_flatMap.mp among
    exact displays fact (List.mem_flatMap.mpr ⟨hypothesis, fewer.subset member, states⟩)
  obtain ⟨remaining, alsoSucceeds⟩ := (synthesize_succeeds_iff printer _).mpr remains
  have drawnBefore := drawnFacts_of_synthesize printer hypotheses result succeeds
  have drawnAfter : drawnFacts remaining =
      ((contributed printer hypotheses).filter fun given => Unnamed locations given.1).map
        Prod.snd := by
    rw [drawnFacts_of_synthesize printer _ remaining alsoSucceeds, contributed_visible]
  refine ⟨drawnBefore, remaining, alsoSucceeds, drawnAfter, ?_, ?_⟩
  · rw [(result_of_synthesize printer _ remaining alsoSucceeds).1, keyed, List.map_eq_nil_iff,
      stated, List.flatMap_eq_nil_iff, visible_eq_filter]
    simp only [List.mem_filter, decide_eq_true_eq, and_imp]
  · rintro diagram rfl
    refine ⟨mem_keys_declared printer _ diagram alsoSucceeds, ?_⟩
    intro agree
    have among : drawnFacts (some diagram) ⊆ drawnFacts result := by
      rw [drawnBefore, drawnAfter]
      exact List.map_subset Prod.snd (List.filter_subset_self _)
    cases result with
    | none => exact absurd (List.subset_nil.mp among) (facts_ne_nil _ _ diagram alsoSucceeds)
    | some full =>
      exact ⟨full, rfl,
        declares_of_subset printer hypotheses _ full diagram succeeds alsoSucceeds among agree⟩

/-- Hypotheses of which two state the same fact and two have the same identity. -/
def repeated : List Hypothesis :=
  [⟨⟨"h1"⟩, "h1", .apply "OnLine" [.var "a", .var "L"]⟩,
    ⟨⟨"h2"⟩, "h2", .apply "OnLine" [.var "a", .var "L"]⟩,
    ⟨⟨"h1"⟩, "h3", .apply "Between" [.var "a", .var "b", .var "c"]⟩,
    ⟨⟨"h4"⟩, "h4", .apply "OnCircle" [.var "c", .var "C"]⟩]

/-- The equal fact of another hypothesis stays, and with it the declarations in front of it. -/
theorem synthesize_visible_repeated :
    ∃ full diagram, synthesize Term.plain repeated = .ok (some full) ∧
      synthesize Term.plain
        (visible repeated [.target, .hypothesisType ⟨"h1"⟩ ⟨"/0"⟩, .hypothesis ⟨"h1"⟩]) =
          .ok (some diagram) ∧
      diagram.program.facts = [.onLine "a" "L", .onCircle "c" "C"] ∧
      ∀ kind key, .declare kind key ∈ diagram.program.lines →
        .declare kind key ∈ full.program.lines := by
  have succeeds : synthesize Term.plain repeated =
      .ok (some (drawn Term.plain repeated)) := by
    rw [synthesize_eq_drawn Term.plain repeated (by decide), if_neg (by decide)]
  obtain ⟨_, remaining, alsoSucceeds, remains, vacant, described⟩ :=
    synthesize_visible Term.plain repeated
      [.target, .hypothesisType ⟨"h1"⟩ ⟨"/0"⟩, .hypothesis ⟨"h1"⟩] _ succeeds
  cases remaining with
  | none => exact absurd (vacant.mp rfl) (by decide)
  | some diagram =>
    obtain ⟨full, same, declares⟩ := (described diagram rfl).2 (by decide)
    obtain rfl := Option.some.inj same
    exact ⟨_, diagram, succeeds, alsoSucceeds, remains.trans (by decide), declares⟩

end PlaneFigure
