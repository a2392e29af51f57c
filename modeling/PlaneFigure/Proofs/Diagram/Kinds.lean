import Mathlib.Data.List.Nodup
import PlaneFigure.Proofs.Diagram.InStep
import PlaneFigure.Proofs.Diagram.Withheld

/-!
# The kinds of declared objects

The layout engine expects every operand of a fact to be declared with the kind that the
signature of the predicate gives its position. A key may be an operand at positions of two
kinds, in two facts or in one, and synthesis does not refuse it: the first occurrence decides
how the key is declared, and the others have to live with it.

So whether a synthesized program meets the expectation is a condition on all its facts
together. It does exactly if no key occurs at positions of two kinds. One direction is that a
key is declared once only, the other that its declaration comes from one of its occurrences.
-/

namespace PlaneFigure

open Term (Printer)

/-- Every operand of every fact is declared on an earlier line, with the kind that the signature
gives its position. -/
def Program.WellKinded (program : Program) : Prop :=
  ∀ before fact after, program.lines = before ++ .fact fact :: after →
    ∀ (position : Nat) (key : String), fact.operands[position]? = some key →
      ∃ kind, fact.shape.signature[position]? = some kind ∧ .declare kind key ∈ before

/-- The kind of the position at which a key occurs first, in the order of the facts and then
of their operands. -/
def firstKind? (facts : List (Fact String)) (key : String) : Option Kind :=
  ((facts.flatMap Fact.typedOperands).find? fun operand => operand.2 = key).map Prod.fst

section InStep

variable {diagram : Diagram}

/-- A key is declared with one kind only. -/
theorem InStep.kind_unique (inStep : InStep diagram) (kind other : Kind) (key : String)
    (declares : .declare kind key ∈ diagram.program.lines)
    (declaresOther : .declare other key ∈ diagram.program.lines) : kind = other := by
  have member := (diagram.program.mem_declared kind key).mpr declares
  have otherMember := (diagram.program.mem_declared other key).mpr declaresOther
  exact congrArg Prod.fst (List.inj_on_of_nodup_map inStep.distinct member otherMember rfl)

/-- The kind with which a key is declared is that of its object. -/
theorem InStep.registered_kind_iff (inStep : InStep diagram) (kind : Kind) (key : String) :
    (diagram.registry.get? key).map (·.kind) = some kind ↔
      .declare kind key ∈ diagram.program.lines := by
  have declares : ∀ entity ∈ diagram.registry.entities,
      .declare entity.kind entity.key ∈ diagram.program.lines := by
    intro entity member
    rw [← Program.mem_declared, inStep.declared]
    exact List.mem_map_of_mem member
  constructor
  · intro registered
    obtain ⟨entity, found, rfl⟩ := Option.map_eq_some_iff.mp registered
    obtain ⟨member, rfl⟩ := (diagram.registry.get?_eq_some_iff key entity).mp found
    exact declares entity member
  · intro declared
    have known : key ∈ diagram.registry.keys := by
      rw [← inStep.keys]
      exact List.mem_map_of_mem ((diagram.program.mem_declared kind key).mpr declared)
    obtain ⟨entity, found⟩ := (diagram.registry.mem_keys_iff key).mp known
    obtain ⟨member, rfl⟩ := (diagram.registry.get?_eq_some_iff key entity).mp found
    rw [found]
    exact congrArg some
      (inStep.kind_unique entity.kind kind entity.key (declares entity member) declared)

/-- In a diagram that is in step it does not matter on which line an operand is declared with
its kind: its key is declared in front of the fact, and nowhere else. -/
theorem InStep.wellKinded_iff (inStep : InStep diagram) :
    diagram.program.WellKinded ↔
      ∀ operand ∈ diagram.program.facts.flatMap Fact.typedOperands,
        operand ∈ diagram.program.declared := by
  constructor
  · rintro wellKinded ⟨kind, key⟩ occurs
    obtain ⟨fact, states, typed⟩ := List.mem_flatMap.mp occurs
    obtain ⟨position, expects, stands⟩ := (fact.mem_typedOperands_iff kind key).mp typed
    obtain ⟨before, after, split⟩ :=
      List.append_of_mem ((diagram.program.mem_facts fact).mp states)
    obtain ⟨found, expected, declares⟩ := wellKinded before fact after split position key stands
    obtain rfl : kind = found := Option.some.inj (expects.symm.trans expected)
    rw [Program.mem_declared, split]
    exact List.mem_append_left _ declares
  · intro declared before fact after split position key stands
    obtain ⟨kind, expects⟩ := fact.exists_kind position key stands
    refine ⟨kind, expects, ?_⟩
    have states : fact ∈ diagram.program.facts := by
      rw [Program.mem_facts, split]
      simp
    have typed := (fact.mem_typedOperands_iff kind key).mpr ⟨position, expects, stands⟩
    have declares := (diagram.program.mem_declared kind key).mp
      (declared (kind, key) (List.mem_flatMap.mpr ⟨fact, states, typed⟩))
    -- In front of the fact the key is declared with some kind, and there is only one.
    obtain ⟨other, earlier⟩ :=
      inStep.earlier before fact after split key (List.mem_of_getElem? stands)
    have alsoDeclared : .declare other key ∈ diagram.program.lines := by
      rw [split]
      exact List.mem_append_left _ earlier
    rw [inStep.kind_unique kind other key declares alsoDeclared]
    exact earlier

end InStep

/-- All operands are declared with the kinds of their positions exactly if the kinds of keys
agree. -/
theorem declared_iff_kindsAgree (printer : Printer) (hypotheses : List Hypothesis)
    (diagram : Diagram) (succeeds : synthesize printer hypotheses = .ok (some diagram)) :
    (∀ operand ∈ diagram.program.facts.flatMap Fact.typedOperands,
      operand ∈ diagram.program.declared) ↔ KindsAgree diagram.program.facts := by
  have inStep := (reachable_of_synthesize printer hypotheses diagram succeeds).inStep
  constructor
  · rintro declared ⟨kind, key⟩ occurs ⟨other, _⟩ alsoOccurs rfl
    exact inStep.kind_unique kind other key
      ((diagram.program.mem_declared kind key).mp (declared _ occurs))
      ((diagram.program.mem_declared other key).mp (declared _ alsoOccurs))
  · exact declared_of_kindsAgree printer hypotheses diagram succeeds

/-- A key is declared with the kind of its first occurrence, and only if it occurs. -/
theorem declares_iff_firstKind (printer : Printer) (hypotheses : List Hypothesis)
    (diagram : Diagram) (succeeds : synthesize printer hypotheses = .ok (some diagram))
    (kind : Kind) (key : String) :
    .declare kind key ∈ diagram.program.lines ↔
      firstKind? diagram.program.facts key = some kind := by
  rw [← Program.mem_declared, declared_of_synthesize printer hypotheses diagram succeeds,
    mem_newcomers_iff, firstKind?, Option.map_eq_some_iff]
  constructor
  · rintro ⟨_, first⟩
    exact ⟨_, first, rfl⟩
  · rintro ⟨⟨_, other⟩, first, rfl⟩
    obtain rfl : other = key := by simpa using List.find?_some first
    exact ⟨List.not_mem_nil, first⟩

/-- In a synthesized program every operand of every fact is declared on an earlier line with the
kind of its position, if and only if no key occurs in the facts that the hypotheses state at
positions of two kinds. In any case a key is declared with the kind of its first occurrence, in
the order of the hypotheses and then of the operands, and its object has that kind. -/
theorem synthesize_wellKinded_iff (printer : Printer) (hypotheses : List Hypothesis)
    (diagram : Diagram) (succeeds : synthesize printer hypotheses = .ok (some diagram)) :
    (diagram.program.WellKinded ↔ KindsAgree (keyed printer (stated hypotheses))) ∧
      ∀ key,
        (∀ kind, .declare kind key ∈ diagram.program.lines ↔
          firstKind? (keyed printer (stated hypotheses)) key = some kind) ∧
        (diagram.registry.get? key).map (·.kind) =
          firstKind? (keyed printer (stated hypotheses)) key := by
  have inStep := (reachable_of_synthesize printer hypotheses diagram succeeds).inStep
  rw [← facts_of_synthesize printer hypotheses diagram succeeds]
  constructor
  · rw [inStep.wellKinded_iff, declared_iff_kindsAgree printer hypotheses diagram succeeds]
  · intro key
    have declares := declares_iff_firstKind printer hypotheses diagram succeeds
    refine ⟨fun kind => declares kind key, ?_⟩
    apply Option.ext
    intro kind
    rw [inStep.registered_kind_iff, declares]

/-- The hypotheses `tangled` use a key as a line and then as a point, and another one as a point
and then as a circle. Both are declared as what they occur as first, so the program is not
well-kinded. The hypotheses `repeated` use every key in one way. -/
theorem synthesize_wellKinded_iff_tangled :
    (∃ diagram, synthesize (Term.refusing "b") tangled = .ok (some diagram) ∧
      ¬ diagram.program.WellKinded ∧ .declare .line "L" ∈ diagram.program.lines ∧
      (diagram.registry.get? "c").map (·.kind) = some .point) ∧
    ∃ diagram, synthesize Term.plain repeated = .ok (some diagram) ∧
      diagram.program.WellKinded := by
  constructor
  · have succeeds := synthesize_eq_some_drawn (Term.refusing "b") tangled (by decide) (by decide)
    obtain ⟨wellKinded, kinds⟩ := synthesize_wellKinded_iff _ tangled _ succeeds
    exact ⟨_, succeeds, fun holds => absurd (wellKinded.mp holds) (by decide),
      ((kinds "L").1 .line).mpr (by decide), (kinds "c").2.trans (by decide)⟩
  · have succeeds := synthesize_eq_some_drawn Term.plain repeated (by decide) (by decide)
    obtain ⟨wellKinded, _⟩ := synthesize_wellKinded_iff _ repeated _ succeeds
    exact ⟨_, succeeds, wellKinded.mpr (by decide)⟩

end PlaneFigure
