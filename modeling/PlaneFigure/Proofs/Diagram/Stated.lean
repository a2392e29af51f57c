import PlaneFigure.Diagram.Synthesis
import PlaneFigure.Proofs.Geometry.Operands
import PlaneFigure.Proofs.Outcome

/-!
# Stated facts and their keys

Synthesis goes through hypotheses, through the facts that each of them states, and through
the operands of each fact. Only the facts matter: they form one list, in the order of the
hypotheses. If every operand of every stated fact is displayed, nothing fails, and what
remains is to draw the facts one after the other with their keys beside the operands.

Terms that are no operands of a stated fact are never displayed, so nothing is asked of the
display there.
-/

namespace PlaneFigure

open Term (Printer Undisplayable)

namespace Diagram

/-- Introduce the operands of a fact, each a key with the term that is displayed so, and
state the fact. -/
def draw (diagram : Diagram) (fact : Fact (String × Term)) : Diagram :=
  let introduced := fact.typedOperands.foldl
    (fun diagram operand => diagram.introduce operand.1 operand.2.1 operand.2.2) diagram
  ⟨introduced.registry, introduced.program.state (fact.map Prod.fst)⟩

end Diagram

/-- The facts that hypotheses state, in the order of the hypotheses. -/
def stated (hypotheses : List Hypothesis) : List (Fact Term) :=
  hypotheses.flatMap fun hypothesis => hypothesis.type.facts

/-- Two lists of hypotheses state their facts one after the other. -/
theorem stated_append (first second : List Hypothesis) :
    stated (first ++ second) = stated first ++ stated second :=
  List.flatMap_append

/-- Every operand of every fact is displayed. -/
def Displays (printer : Printer) (facts : List (Fact Term)) : Prop :=
  ∀ fact ∈ facts, ∀ operand ∈ fact.operands, (printer operand).isOk = true

instance (printer : Printer) (facts : List (Fact Term)) : Decidable (Displays printer facts) :=
  inferInstanceAs (Decidable (∀ fact ∈ facts, ∀ operand ∈ fact.operands,
    (printer operand).isOk = true))

/-- The key that an operand is displayed as. The empty text stands in for the key of an
operand that is not displayed. -/
def keyOf (printer : Printer) (operand : Term) : String :=
  match printer operand with
  | .ok key => key
  | .error _ => ""

/-- Facts with every operand replaced by its key. -/
def keyed (printer : Printer) (facts : List (Fact Term)) : List (Fact String) :=
  facts.map (Fact.map (keyOf printer))

/-- A fact with the key of every operand beside it. -/
def withKeys (printer : Printer) (fact : Fact Term) : Fact (String × Term) :=
  fact.map fun operand => (keyOf printer operand, operand)

/-- A display that does not fail yields the key. -/
theorem printer_eq_keyOf (printer : Printer) (operand : Term)
    (displays : (printer operand).isOk = true) :
    printer operand = .ok (keyOf printer operand) := by
  cases shown : printer operand with
  | ok key => simp [keyOf, shown]
  | error failure => simp [shown, Except.isOk, Except.toBool] at displays

/-- Keys and terms that are paired position by position are those that stand beside each other. -/
theorem Diagram.drawAs_map (diagram : Diagram) (fact : Fact (String × Term)) :
    diagram.drawAs (fact.map Prod.snd) (fact.map Prod.fst) = diagram.draw fact := by
  rw [drawAs, Fact.zip_typedOperands_operands, List.foldl_map]
  rfl

/-- With every operand displayed, a fact is drawn with the keys of its operands beside them. -/
theorem Diagram.takeFact_eq_ok (diagram : Diagram) (printer : Printer) (fact : Fact Term)
    (displays : ∀ operand ∈ fact.operands, (printer operand).isOk = true) :
    diagram.takeFact printer fact = .ok (diagram.draw (withKeys printer fact)) := by
  have shown : fact.mapM printer = .ok (fact.map (keyOf printer)) :=
    fact.mapM_eq_ok printer (keyOf printer) fun operand member =>
      printer_eq_keyOf printer operand (displays operand member)
  have keys : (withKeys printer fact).map Prod.fst = fact.map (keyOf printer) :=
    Fact.map_map _ _ fact
  have terms : (withKeys printer fact).map Prod.snd = fact :=
    (Fact.map_map _ _ fact).trans fact.map_id
  have draws := diagram.drawAs_map (withKeys printer fact)
  rw [keys, terms] at draws
  rw [takeFact, shown]
  exact congrArg Except.ok draws

/-- A fact is drawn exactly if every operand of it is displayed. -/
theorem Diagram.takeFact_eq_ok_iff (diagram : Diagram) (printer : Printer) (fact : Fact Term)
    (next : Diagram) :
    diagram.takeFact printer fact = .ok next ↔
      (∀ operand ∈ fact.operands, (printer operand).isOk = true) ∧
        diagram.draw (withKeys printer fact) = next := by
  constructor
  · intro draws
    obtain ⟨keyed, shown, _⟩ := (map_eq_ok_iff _ _ _).mp draws
    have displays := fact.isOk_of_mapM_eq_ok printer keyed shown
    rw [diagram.takeFact_eq_ok printer fact displays] at draws
    exact ⟨displays, Except.ok.inj draws⟩
  · rintro ⟨displays, rfl⟩
    exact diagram.takeFact_eq_ok printer fact displays

/-- Drawing a fact fails where displaying its operands fails first. -/
theorem Diagram.takeFact_eq_error_iff (diagram : Diagram) (printer : Printer) (fact : Fact Term)
    (failure : Undisplayable) :
    diagram.takeFact printer fact = .error failure ↔ FailsFirst printer fact.operands failure := by
  rw [← Fact.mapM_eq_error_iff, takeFact]
  cases fact.mapM printer <;> simp [Functor.map, Except.map]

/-- Taking hypotheses one after the other is taking their facts one after the other. -/
theorem foldlM_step (printer : Printer) (hypotheses : List Hypothesis) (diagram : Diagram) :
    hypotheses.foldlM (Diagram.step printer) diagram =
      (stated hypotheses).foldlM (Diagram.takeFact printer) diagram := by
  induction hypotheses generalizing diagram with
  | nil => rfl
  | cons hypothesis rest inductionHypothesis =>
    simp only [stated, List.flatMap_cons, List.foldlM_cons, List.foldlM_append]
    apply congrArg (Diagram.step printer diagram hypothesis >>= ·)
    funext next
    exact inductionHypothesis next

/-- What every drawn fact preserves holds after a step that does not fail: the step draws the
facts that the hypothesis states. -/
theorem Diagram.step_preserves (holds : Diagram → Prop)
    (draws : ∀ diagram fact, holds diagram → holds (diagram.draw fact)) (printer : Printer)
    (diagram : Diagram) (hypothesis : Hypothesis) (next : Diagram) (initially : holds diagram)
    (steps : diagram.step printer hypothesis = .ok next) : holds next := by
  refine foldlM_preserves _ holds ?_ hypothesis.type.facts diagram next initially steps
  intro reached fact next held draw
  obtain ⟨_, rfl⟩ := (reached.takeFact_eq_ok_iff printer fact next).mp draw
  exact draws reached (withKeys printer fact) held

/-- What every drawn fact preserves holds at the end of a run that does not fail. -/
theorem Diagram.run_preserves (holds : Diagram → Prop)
    (draws : ∀ diagram fact, holds diagram → holds (diagram.draw fact)) (printer : Printer)
    (hypotheses : List Hypothesis) (diagram last : Diagram) (initially : holds diagram)
    (runs : hypotheses.foldlM (Diagram.step printer) diagram = .ok last) : holds last := by
  refine foldlM_preserves _ holds ?_ hypotheses diagram last initially runs
  intro reached hypothesis next held steps
  exact step_preserves holds draws printer reached hypothesis next held steps

/-- With every operand displayed nothing fails, and the facts are drawn with their keys. -/
theorem foldlM_takeFact (printer : Printer) (facts : List (Fact Term)) (diagram : Diagram)
    (displays : Displays printer facts) :
    facts.foldlM (Diagram.takeFact printer) diagram =
      .ok ((facts.map (withKeys printer)).foldl Diagram.draw diagram) := by
  induction facts generalizing diagram with
  | nil => rfl
  | cons fact rest inductionHypothesis =>
    have first := diagram.takeFact_eq_ok printer fact (displays fact (by simp))
    have later : Displays printer rest :=
      fun other member => displays other (List.mem_cons_of_mem fact member)
    rw [List.foldlM_cons, first]
    exact inductionHypothesis (diagram.draw (withKeys printer fact)) later

/-- The diagram that is drawn from hypotheses, facts or no facts. -/
def drawn (printer : Printer) (hypotheses : List Hypothesis) : Diagram :=
  ((stated hypotheses).map (withKeys printer)).foldl Diagram.draw .blank

/-- With every operand displayed, a run from the blank diagram does not fail. -/
theorem run_eq_drawn (printer : Printer) (hypotheses : List Hypothesis)
    (displays : Displays printer (stated hypotheses)) :
    hypotheses.foldlM (Diagram.step printer) .blank = .ok (drawn printer hypotheses) := by
  rw [foldlM_step, foldlM_takeFact printer (stated hypotheses) .blank displays]
  rfl

/-- With every operand displayed, synthesis yields the diagram that is drawn, unless it has
no facts. -/
theorem synthesize_eq_drawn (printer : Printer) (hypotheses : List Hypothesis)
    (displays : Displays printer (stated hypotheses)) :
    synthesize printer hypotheses =
      .ok (if (drawn printer hypotheses).program.factCount = 0 then none
        else some (drawn printer hypotheses)) := by
  unfold synthesize
  rw [run_eq_drawn printer hypotheses displays]
  rfl

/-- With every operand displayed and a fact to draw, synthesis yields the diagram that is drawn. -/
theorem synthesize_eq_some_drawn (printer : Printer) (hypotheses : List Hypothesis)
    (displays : Displays printer (stated hypotheses))
    (inhabited : (drawn printer hypotheses).program.factCount ≠ 0) :
    synthesize printer hypotheses = .ok (some (drawn printer hypotheses)) := by
  rw [synthesize_eq_drawn printer hypotheses displays, if_neg inhabited]

/-- With every operand displayed, synthesis succeeds. It yields no diagram if none of the lines
that are drawn is a fact, and no other diagram than the one that is drawn. -/
theorem synthesize_succeeds (printer : Printer) (hypotheses : List Hypothesis)
    (displays : Displays printer (stated hypotheses)) :
    ∃ result, synthesize printer hypotheses = .ok result ∧
      (result = none ↔ (drawn printer hypotheses).program.factCount = 0) ∧
      ∀ diagram, result = some diagram → drawn printer hypotheses = diagram := by
  refine ⟨_, synthesize_eq_drawn printer hypotheses displays, ?_, ?_⟩
  · by_cases vacant : (drawn printer hypotheses).program.factCount = 0 <;> simp [vacant]
  · intro diagram found
    by_cases vacant : (drawn printer hypotheses).program.factCount = 0
    · simp [vacant] at found
    · simpa [vacant] using found

/-- If facts are drawn one after the other without failure, every operand was displayed. -/
theorem displays_of_foldlM (printer : Printer) (facts : List (Fact Term))
    (diagram result : Diagram)
    (succeeds : facts.foldlM (Diagram.takeFact printer) diagram = .ok result) :
    Displays printer facts := by
  induction facts generalizing diagram with
  | nil => simp [Displays]
  | cons fact rest inductionHypothesis =>
    rw [List.foldlM_cons, bind_eq_ok_iff] at succeeds
    obtain ⟨next, draws, later⟩ := succeeds
    obtain ⟨first, _⟩ := (diagram.takeFact_eq_ok_iff printer fact next).mp draws
    exact List.forall_mem_cons.mpr ⟨first, inductionHypothesis next later⟩

/-- A run from the blank diagram succeeds exactly if every operand of every stated fact is
displayed. -/
theorem run_succeeds_iff (printer : Printer) (hypotheses : List Hypothesis) :
    (∃ last, hypotheses.foldlM (Diagram.step printer) .blank = .ok last) ↔
      Displays printer (stated hypotheses) := by
  constructor
  · rintro ⟨last, runs⟩
    rw [foldlM_step] at runs
    exact displays_of_foldlM printer (stated hypotheses) .blank last runs
  · intro displays
    exact ⟨_, run_eq_drawn printer hypotheses displays⟩

/-- Synthesis succeeds exactly if every operand of every stated fact is displayed. -/
theorem synthesize_succeeds_iff (printer : Printer) (hypotheses : List Hypothesis) :
    (∃ result, synthesize printer hypotheses = .ok result) ↔
      Displays printer (stated hypotheses) := by
  constructor
  · rintro ⟨result, succeeds⟩
    unfold synthesize at succeeds
    obtain ⟨last, runs, _⟩ := (bind_eq_ok_iff _ _ _).mp succeeds
    exact (run_succeeds_iff printer hypotheses).mp ⟨last, runs⟩
  · intro displays
    exact ⟨_, synthesize_eq_drawn printer hypotheses displays⟩

/-- A hypothesis that states nothing makes no difference. -/
theorem synthesize_filter (printer : Printer) (hypotheses : List Hypothesis) :
    synthesize printer (hypotheses.filter fun hypothesis => !hypothesis.type.facts.isEmpty) =
      synthesize printer hypotheses := by
  have same : stated (hypotheses.filter fun hypothesis => !hypothesis.type.facts.isEmpty) =
      stated hypotheses := by
    induction hypotheses with
    | nil => rfl
    | cons hypothesis rest inductionHypothesis =>
      by_cases silent : hypothesis.type.facts = []
      · simpa [stated, silent] using inductionHypothesis
      · simpa [stated, silent] using inductionHypothesis
  unfold synthesize
  rw [foldlM_step, foldlM_step, same]

end PlaneFigure
