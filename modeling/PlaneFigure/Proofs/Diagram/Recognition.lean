import PlaneFigure.Proofs.Diagram.ProgramLines

/-!
# Recognition inverts application

A fact is recognised by walks along the spine of a term: one finds the head, one counts the
arguments and one collects them. Applying the constant of a predicate to operands builds a
spine, so the walks have to find what it was built from. A term is the application of a constant
to arguments exactly if they find this constant and these arguments, and of all terms only one
has them; over-applied and under-applied predicates, and those whose head is a variable or an
application, are other terms.

Once the head and the number of arguments are right, there is a fact with these operands. So a
term states one fact at most, because its head names one predicate at most, and the facts of a
synthesized program can be counted without looking at it.
-/

namespace PlaneFigure

namespace Term

/-- Arguments that are added do not change the head. -/
theorem head_applyTo (function : Term) (args : List Term) :
    (applyTo function args).head = function.head := by
  induction args generalizing function with
  | nil => rfl
  | cons arg rest inductionHypothesis => exact inductionHypothesis (app function arg)

/-- Arguments that are added stand behind those that are there. -/
theorem args_applyTo (function : Term) (args : List Term) :
    (applyTo function args).args = function.args ++ args := by
  induction args generalizing function with
  | nil => simp [applyTo]
  | cons arg rest inductionHypothesis =>
    calc (applyTo (app function arg) rest).args
        = (app function arg).args ++ rest := inductionHypothesis (app function arg)
      _ = function.args ++ arg :: rest := by simp [args_app]

/-- The head is a constant of a name exactly if this name is found. -/
theorem headConst?_eq_some_iff (term : Term) (name : String) :
    term.headConst? = some name ↔ term.head = const name := by
  unfold headConst?
  split <;> simp_all

/-- A term is a constant applied to arguments exactly if the constant is found at its head, and
the arguments along its spine. -/
theorem eq_apply_iff (term : Term) (name : String) (args : List Term) :
    term = apply name args ↔ term.headConst? = some name ∧ term.args = args := by
  rw [headConst?_eq_some_iff]
  constructor
  · rintro rfl
    exact ⟨head_applyTo (const name) args, args_applyTo (const name) args⟩
  · rintro ⟨constant, rfl⟩
    rw [apply, ← constant, applyTo_head_args]

/-- A term states the fact of a shape with given operands exactly if it is the predicate applied
to these operands. -/
theorem factOf?_eq_some_iff (shape : Shape) (term : Term) (fact : Fact Term) :
    term.factOf? shape = some fact ↔
      fact.shape = shape ∧ term = apply shape.name fact.operands := by
  rw [factOf?, Option.ite_none_right_eq_some, Fact.ofOperands?_eq_some_iff, eq_apply_iff]
  constructor
  · rintro ⟨⟨named, _⟩, shaped, operands⟩
    exact ⟨shaped, named, operands.symm⟩
  · rintro ⟨rfl, named, operands⟩
    have count : term.arity = fact.shape.arity := by
      rw [← length_args, operands, Fact.length_operands]
    exact ⟨⟨named, count⟩, rfl, operands.symm⟩

/-- The facts that a term states are those whose predicate, applied to their operands, is the
term. -/
theorem mem_facts_iff (term : Term) (fact : Fact Term) :
    fact ∈ term.facts ↔ term = apply fact.shape.name fact.operands := by
  simp only [facts, List.mem_filterMap, factOf?_eq_some_iff]
  constructor
  · rintro ⟨shape, _, rfl, states⟩
    exact states
  · intro states
    exact ⟨fact.shape, fact.shape.mem_all, rfl, states⟩

/-- The head of a term names one predicate at most. -/
theorem shape_unique (term : Term) (shape other : Shape) (fact otherFact : Fact Term)
    (states : term.factOf? shape = some fact) (alsoStates : term.factOf? other = some otherFact) :
    shape = other := by
  obtain ⟨_, applied⟩ := (factOf?_eq_some_iff shape term fact).mp states
  obtain ⟨_, alsoApplied⟩ := (factOf?_eq_some_iff other term otherFact).mp alsoStates
  have named := ((eq_apply_iff term _ _).mp applied).1
  have alsoNamed := ((eq_apply_iff term _ _).mp alsoApplied).1
  exact Shape.name_injective (Option.some.inj (named.symm.trans alsoNamed))

/-- The fact that is found for one shape is the only one. -/
theorem facts_eq_singleton (term : Term) (shape : Shape) (fact : Fact Term)
    (states : term.factOf? shape = some fact) : term.facts = [fact] := by
  have others : ∀ other, other ≠ shape → term.factOf? other = none := by
    intro other different
    by_contra found
    obtain ⟨otherFact, alsoStates⟩ := Option.ne_none_iff_exists'.mp found
    exact different (shape_unique term other shape otherFact fact alsoStates states)
  cases shape <;> simp [facts, Shape.all, states, others]

/-- The term is a predicate applied to as many operands as it has. -/
def StatesFact (term : Term) : Prop :=
  ∃ (shape : Shape) (operands : List Term),
    operands.length = shape.arity ∧ term = apply shape.name operands

/-- Such a term states a fact, and no other term does. -/
theorem statesFact_iff (term : Term) : term.StatesFact ↔ term.facts ≠ [] := by
  constructor
  · rintro ⟨shape, operands, count, applied⟩
    obtain ⟨fact, rfl, rfl⟩ := Fact.exists_of_length shape operands count
    exact List.ne_nil_of_mem ((mem_facts_iff term fact).mpr applied)
  · intro inhabited
    obtain ⟨fact, states⟩ := List.exists_mem_of_ne_nil _ inhabited
    exact ⟨fact.shape, fact.operands, fact.length_operands, (mem_facts_iff term fact).mp states⟩

instance (term : Term) : Decidable term.StatesFact :=
  decidable_of_iff _ term.statesFact_iff.symm

/-- A term states one fact if it is such an application, and otherwise none. -/
theorem length_facts (term : Term) : term.facts.length = if term.StatesFact then 1 else 0 := by
  by_cases states : term.StatesFact
  · obtain ⟨fact, member⟩ := List.exists_mem_of_ne_nil _ (term.statesFact_iff.mp states)
    obtain ⟨shape, _, found⟩ := List.mem_filterMap.mp member
    rw [if_pos states, facts_eq_singleton term shape fact found, List.length_singleton]
  · have silent : term.facts = [] := by
      simpa [statesFact_iff] using states
    rw [if_neg states, silent, List.length_nil]

end Term

/-- Every hypothesis states as many facts as it adds to the count. -/
theorem length_stated (hypotheses : List Hypothesis) :
    (stated hypotheses).length =
      hypotheses.countP fun hypothesis => hypothesis.type.StatesFact := by
  induction hypotheses with
  | nil => rfl
  | cons hypothesis rest inductionHypothesis =>
    have split : stated (hypothesis :: rest) = hypothesis.type.facts ++ stated rest := rfl
    rw [split, List.length_append, inductionHypothesis, Term.length_facts, List.countP_cons,
      Nat.add_comm]
    simp only [decide_eq_true_eq]

/-- A successful synthesis draws as many facts as there are hypotheses that state one; without a
diagram there are none. -/
theorem factCount_of_synthesize (printer : Term.Printer) (hypotheses : List Hypothesis)
    (result : Option Diagram) (succeeds : synthesize printer hypotheses = .ok result) :
    (result.map fun diagram => diagram.program.factCount).getD 0 =
      hypotheses.countP fun hypothesis => hypothesis.type.StatesFact := by
  rw [← length_stated]
  cases result with
  | none =>
    obtain ⟨vacant, _⟩ := result_of_synthesize printer hypotheses none succeeds
    have silent : stated hypotheses = [] := by simpa [keyed] using vacant.mp rfl
    rw [silent]
    rfl
  | some diagram =>
    rw [Option.map_some, Option.getD_some, Program.factCount_eq,
      facts_of_synthesize printer hypotheses diagram succeeds, keyed, List.length_map]

/-- A term is recognised as a fact of a shape with certain operands exactly if it is the
predicate applied to these operands and they have the right number. A fact that is recognised
has the shape that was asked for, and with the right head and the right number of arguments
there always is one. So a term states one fact at most, and none exactly if it is no such
application, and a synthesis draws as many facts as there are hypotheses that state one. -/
theorem factOf?_inverts_apply :
    (∀ (shape : Shape) (term : Term) (operands : List Term),
      (∃ fact, term.factOf? shape = some fact ∧ fact.shape = shape ∧ fact.operands = operands) ↔
        term = .apply shape.name operands ∧ operands.length = shape.arity) ∧
    (∀ (shape : Shape) (term : Term) (fact : Fact Term),
      term.factOf? shape = some fact → fact.shape = shape) ∧
    (∀ (shape : Shape) (term : Term), term.headConst? = some shape.name →
      term.arity = shape.arity → Fact.ofOperands? shape term.args ≠ none) ∧
    (∀ term : Term, term.facts.length ≤ 1 ∧
      (term.facts = [] ↔ ¬ ∃ (shape : Shape) (operands : List Term),
        operands.length = shape.arity ∧ term = .apply shape.name operands)) ∧
    ∀ (printer : Term.Printer) (hypotheses : List Hypothesis) (result : Option Diagram),
      synthesize printer hypotheses = .ok result →
        (result.map fun diagram => diagram.program.factCount).getD 0 =
          hypotheses.countP fun hypothesis => hypothesis.type.StatesFact := by
  refine ⟨?_, ?_, ?_, ?_, factCount_of_synthesize⟩
  · intro shape term operands
    constructor
    · rintro ⟨fact, states, rfl, rfl⟩
      obtain ⟨_, applied⟩ := (Term.factOf?_eq_some_iff fact.shape term fact).mp states
      exact ⟨applied, fact.length_operands⟩
    · rintro ⟨applied, count⟩
      obtain ⟨fact, rfl, rfl⟩ := Fact.exists_of_length shape operands count
      exact ⟨fact, (Term.factOf?_eq_some_iff fact.shape term fact).mpr ⟨rfl, applied⟩, rfl, rfl⟩
  · intro shape term fact states
    exact ((Term.factOf?_eq_some_iff shape term fact).mp states).1
  · intro shape term _ count
    rw [← term.length_args] at count
    obtain ⟨fact, built⟩ := Fact.exists_of_length shape term.args count
    rw [(Fact.ofOperands?_eq_some_iff shape term.args fact).mpr built]
    exact Option.some_ne_none fact
  · intro term
    refine ⟨?_, not_iff_not.mp ?_⟩
    · rw [term.length_facts]
      split <;> decide
    · rw [not_not]
      exact term.statesFact_iff.symm

/-- A predicate with a compound operand states a fact, with one operand more it states nothing,
and of five hypotheses the four that state a fact are counted. -/
theorem factOf?_inverts_apply_tangled :
    (∃ fact, Term.factOf? .onLine (.apply "OnLine" [.apply "mid" [.var "a", .var "b"], .var "L"]) =
        some fact ∧ fact.shape = .onLine) ∧
      (Term.apply "OnLine" [.var "a", .var "L", .var "M"]).facts = [] ∧
      Fact.ofOperands? .onLine (Term.apply "OnLine" [.var "a", .var "L"]).args ≠ none ∧
      ∃ diagram, synthesize Term.plain tangled = .ok (some diagram) ∧
        diagram.program.factCount = 4 := by
  obtain ⟨inverts, shaped, complete, single, counted⟩ := factOf?_inverts_apply
  obtain ⟨fact, states, _⟩ := (inverts .onLine (.apply "OnLine"
    [.apply "mid" [.var "a", .var "b"], .var "L"])
    [.apply "mid" [.var "a", .var "b"], .var "L"]).mpr ⟨rfl, rfl⟩
  have succeeds : synthesize Term.plain tangled = .ok (some (drawn Term.plain tangled)) :=
    synthesize_eq_some_drawn Term.plain tangled (by decide) (by decide)
  have count := counted Term.plain tangled _ succeeds
  refine ⟨⟨fact, states, shaped _ _ fact states⟩, ?_, ?_, _, succeeds, count.trans (by decide)⟩
  · rw [(single _).2]
    exact (Term.statesFact_iff _).not.mpr (by decide)
  · exact complete .onLine _ (by decide) (by decide)

end PlaneFigure
