import PlaneFigure.Proofs.Diagram.Registration
import PlaneFigure.Proofs.Diagram.Stated

/-!
# The lines of a program

What a program says is determined by the sequence of its facts. Each fact contributes a
declaration for every operand whose key occurs here for the first time in the sequence, with
the kind of the position at which it occurs, and then its own line. `factLines` says this by
position, without remembering anything from one fact to the next.

Drawing does remember: the registry holds the keys that have occurred, and an operand is
declared exactly when registering it made a new object. One drawn fact therefore adds the
newcomers of its operands to the registry and their declarations to the program, and a whole
sequence adds the newcomers of the sequence. The registry may hold objects beforehand, which
count as earlier occurrences.
-/

namespace PlaneFigure

open Term (Printer)

/-- The declaration of an operand. -/
def Line.ofOperand (operand : Kind × String) : Line := .declare operand.1 operand.2

/-- The fact that a line states. -/
def Line.fact? : Line → Option (Fact String)
  | .fact stated => some stated
  | _ => none

/-- The object that a line declares. -/
def Line.declared? : Line → Option (Kind × String)
  | .declare kind key => some (kind, key)
  | _ => none

/-- The facts of a program, in order. -/
def Program.facts (program : Program) : List (Fact String) := program.lines.filterMap Line.fact?

/-- The objects that a program declares, in order. -/
def Program.declared (program : Program) : List (Kind × String) :=
  program.lines.filterMap Line.declared?

/-- A program declares an object if it has the line that does. -/
theorem Program.mem_declared (program : Program) (kind : Kind) (key : String) :
    (kind, key) ∈ program.declared ↔ .declare kind key ∈ program.lines := by
  unfold Program.declared
  rw [List.mem_filterMap]
  constructor
  · rintro ⟨line, member, found⟩
    cases line with
    | autoLabel => cases found
    | fact stated => cases found
    | declare otherKind otherKey =>
      obtain ⟨rfl, rfl⟩ : otherKind = kind ∧ otherKey = key := by
        simpa [Line.declared?] using found
      exact member
  · intro member
    exact ⟨_, member, rfl⟩

/-- A fact of a program is one of its lines. -/
theorem Program.mem_facts (program : Program) (fact : Fact String) :
    fact ∈ program.facts ↔ .fact fact ∈ program.lines := by
  rw [facts, List.mem_filterMap]
  constructor
  · rintro ⟨line, member, states⟩
    cases line with
    | autoLabel => cases states
    | declare kind key => cases states
    | fact stated =>
      obtain rfl : stated = fact := Option.some.inj states
      exact member
  · intro member
    exact ⟨_, member, rfl⟩

/-- The operands of a fact whose keys occur neither among the known keys nor at an earlier
position of the fact. -/
def freshOperands (known : List String) (fact : Fact String) : List (Kind × String) :=
  newcomers Prod.snd known fact.typedOperands

/-- The lines that a sequence of facts contributes: in front of each fact the declarations of
the keys that are not known, occur in no earlier fact, and at no earlier position of it. -/
def factLines (known : List String) (facts : List (Fact String)) : List Line :=
  facts.zipIdx.flatMap fun (fact, index) =>
    (freshOperands (known ++ (facts.take index).flatMap Fact.operands) fact).map Line.ofOperand ++
      [.fact fact]

/-- Finding the lines by a single pass: the first fact is decided by the known keys, and its
operands are known to the rest. -/
theorem factLines_cons (known : List String) (fact : Fact String) (rest : List (Fact String)) :
    factLines known (fact :: rest) =
      (freshOperands known fact).map Line.ofOperand ++
        .fact fact :: factLines (known ++ fact.operands) rest := by
  simp [factLines, List.zipIdx_succ, List.flatMap_map]

/-- The known keys matter as a set. -/
theorem factLines_congr (known other : List String) (facts : List (Fact String))
    (same : ∀ key, key ∈ known ↔ key ∈ other) :
    factLines known facts = factLines other facts := by
  induction facts generalizing known other with
  | nil => rfl
  | cons fact rest inductionHypothesis =>
    have later : ∀ key, key ∈ known ++ fact.operands ↔ key ∈ other ++ fact.operands := by
      intro key
      simp only [List.mem_append, same]
    rw [factLines_cons, factLines_cons, freshOperands,
      newcomers_congr Prod.snd known other fact.typedOperands same,
      inductionHypothesis (known ++ fact.operands) (other ++ fact.operands) later, freshOperands]

/-- Declarations state no facts, so the facts among the lines are the given ones, repetitions
included. -/
theorem filterMap_fact?_factLines (known : List String) (facts : List (Fact String)) :
    (factLines known facts).filterMap Line.fact? = facts := by
  induction facts generalizing known with
  | nil => rfl
  | cons fact rest inductionHypothesis =>
    have silent : ∀ operands : List (Kind × String),
        (operands.map Line.ofOperand).filterMap Line.fact? = [] := by
      intro operands
      simp [Line.ofOperand, Line.fact?]
    have speaks : Line.fact? (.fact fact) = some fact := rfl
    rw [factLines_cons, List.filterMap_append, silent, List.nil_append,
      List.filterMap_cons_some speaks, inductionHypothesis]

/-- Declarations of operands declare these. -/
theorem declared?_map_ofOperand (operands : List (Kind × String)) :
    (operands.map Line.ofOperand).filterMap Line.declared? = operands := by
  rw [List.filterMap_map]
  exact List.filterMap_some

/-- The declarations among the lines are those of the newcomers in the whole sequence of
operands. -/
theorem filterMap_declared?_factLines (known : List String) (facts : List (Fact String)) :
    (factLines known facts).filterMap Line.declared? =
      newcomers Prod.snd known (facts.flatMap Fact.typedOperands) := by
  induction facts generalizing known with
  | nil => rfl
  | cons fact rest inductionHypothesis =>
    rw [factLines_cons, List.filterMap_append, declared?_map_ofOperand,
      List.filterMap_cons_none rfl,
      inductionHypothesis, List.flatMap_cons, newcomers_append, Fact.map_snd_typedOperands,
      freshOperands]

namespace Diagram

/-- Introduce operands one after the other. -/
def introduceAll (diagram : Diagram) (operands : List (Kind × String × Term)) : Diagram :=
  operands.foldl
    (fun diagram operand => diagram.introduce operand.1 operand.2.1 operand.2.2) diagram

/-- Introducing operands registers them; what the program says makes no difference. -/
theorem registry_introduceAll (diagram : Diagram) (operands : List (Kind × String × Term)) :
    (diagram.introduceAll operands).registry = diagram.registry.registerAll operands := by
  induction operands generalizing diagram with
  | nil => rfl
  | cons operand rest inductionHypothesis =>
    exact inductionHypothesis (diagram.introduce operand.1 operand.2.1 operand.2.2)

/-- An operand is registered unless its key is. -/
theorem introduce_entities (diagram : Diagram) (kind : Kind) (key : String) (backing : Term) :
    (diagram.introduce kind key backing).registry.entities = diagram.registry.entities ++
      if key ∈ diagram.registry.keys then [] else [⟨kind, key, backing, diagram.registry.size⟩] :=
  diagram.registry.entities_register key backing kind

/-- An operand is declared unless its key is registered. -/
theorem introduce_lines (diagram : Diagram) (kind : Kind) (key : String) (backing : Term) :
    (diagram.introduce kind key backing).program.lines = diagram.program.lines ++
      if key ∈ diagram.registry.keys then [] else [.declare kind key] := by
  have fresh := (diagram.registry.registers_register key backing kind).isNew
  by_cases known : key ∈ diagram.registry.keys
  · have old : (diagram.registry.register key backing kind).isNew = false :=
      Bool.eq_false_iff.mpr fun new => fresh.mp new known
    simp [introduce, old, known]
  · simp [introduce, fresh.mpr known, known, Program.declare]

/-- Introducing operands registers and declares exactly the newcomers among them, in order.
Registry and program stay in step because one test decides both: the induction follows the
operands, and the registered keys are the keys met so far. -/
theorem introduceAll_exact (diagram : Diagram) (operands : List (Kind × String × Term)) :
    (diagram.introduceAll operands).registry.entities = diagram.registry.entities ++
        ((diagram.registry.unregistered operands).zipIdx diagram.registry.size).map
          (fun placed => Entity.ofOperand placed.1 placed.2) ∧
      (diagram.introduceAll operands).program.lines = diagram.program.lines ++
        (diagram.registry.unregistered operands).map
          (fun operand => .declare operand.1 operand.2.1) := by
  constructor
  · rw [registry_introduceAll, Registry.entities_registerAll]
  · induction operands generalizing diagram with
    | nil => simp [introduceAll, Registry.unregistered, newcomers_nil]
    | cons operand rest inductionHypothesis =>
      obtain ⟨kind, key, backing⟩ := operand
      have next : diagram.introduceAll ((kind, key, backing) :: rest) =
          (diagram.introduce kind key backing).introduceAll rest := rfl
      have registry : (diagram.introduce kind key backing).registry =
          (diagram.registry.register key backing kind).registry := rfl
      rw [next, inductionHypothesis, introduce_lines, registry, Registry.unregistered_cons,
        List.append_assoc, List.map_append]
      by_cases known : key ∈ diagram.registry.keys <;> simp [known]

/-- The keys after introducing operands are those from before and those of the operands. -/
theorem mem_keys_introduceAll (diagram : Diagram) (operands : List (Kind × String × Term))
    (key : String) :
    key ∈ (diagram.introduceAll operands).registry.keys ↔
      key ∈ diagram.registry.keys ++ operands.map (fun operand => operand.2.1) := by
  rw [registry_introduceAll, Registry.mem_keys_registerAll]

/-- Drawing a fact introduces its operands and states it. -/
theorem draw_eq (diagram : Diagram) (fact : Fact (String × Term)) :
    diagram.draw fact = ⟨(diagram.introduceAll fact.typedOperands).registry,
      (diagram.introduceAll fact.typedOperands).program.state (fact.map Prod.fst)⟩ := rfl

/-- The declarations of the operands that are not registered are those of the keys that occur
for the first time. -/
theorem declarations_unregistered (registry : Registry) (fact : Fact (String × Term)) :
    (registry.unregistered fact.typedOperands).map
        (fun operand => Line.declare operand.1 operand.2.1) =
      (freshOperands registry.keys (fact.map Prod.fst)).map Line.ofOperand := by
  rw [freshOperands, Fact.typedOperands_map, newcomers_map, List.map_map]
  rfl

/-- Drawing a fact adds the declarations of the keys that are not registered, and then the
fact. -/
theorem draw_lines (diagram : Diagram) (fact : Fact (String × Term)) :
    (diagram.draw fact).program.lines = diagram.program.lines ++
      (freshOperands diagram.registry.keys (fact.map Prod.fst)).map Line.ofOperand ++
        [.fact (fact.map Prod.fst)] := by
  rw [draw_eq, ← declarations_unregistered, ← (introduceAll_exact diagram _).2]
  rfl

/-- Drawing facts one after the other adds the lines that the sequence of facts contributes,
with everything registered beforehand already known. The induction follows the facts; what
the registry holds after the first one is, as a set, what was known with its operands added,
and that is what decides the rest. -/
theorem foldl_draw_lines (diagram : Diagram) (facts : List (Fact (String × Term))) :
    (facts.foldl draw diagram).program.lines = diagram.program.lines ++
      factLines diagram.registry.keys (facts.map (Fact.map Prod.fst)) := by
  induction facts generalizing diagram with
  | nil => simp [factLines]
  | cons fact rest inductionHypothesis =>
    have known : ∀ key, key ∈ (diagram.draw fact).registry.keys ↔
        key ∈ diagram.registry.keys ++ (fact.map Prod.fst).operands := by
      intro key
      rw [draw_eq, mem_keys_introduceAll, ← Fact.map_snd_typedOperands,
        Fact.typedOperands_map, List.map_map]
      rfl
    rw [List.foldl_cons, inductionHypothesis, draw_lines, factLines_congr _ _ _ known,
      List.map_cons, factLines_cons]
    simp only [List.append_assoc, List.singleton_append]

/-- For the registry, drawing facts is registering their operands one after the other. -/
theorem foldl_draw_registry (diagram : Diagram) (facts : List (Fact (String × Term))) :
    (facts.foldl draw diagram).registry =
      diagram.registry.registerAll (facts.flatMap Fact.typedOperands) := by
  induction facts generalizing diagram with
  | nil => rfl
  | cons fact rest inductionHypothesis =>
    rw [List.foldl_cons, inductionHypothesis, draw_eq, registry_introduceAll, List.flatMap_cons,
      Registry.registerAll_append]

end Diagram

/-- The keys beside the operands are the keys of the fact. -/
theorem map_fst_withKeys (printer : Printer) (facts : List (Fact Term)) :
    (facts.map (withKeys printer)).map (Fact.map Prod.fst) = keyed printer facts := by
  simp only [List.map_map, keyed]
  apply List.map_congr_left
  intro fact _
  exact Fact.map_map _ _ fact

/-- The lines that are drawn from hypotheses: the header, and what their facts contribute. -/
theorem drawn_lines (printer : Printer) (hypotheses : List Hypothesis) :
    (drawn printer hypotheses).program.lines =
      .autoLabel :: factLines [] (keyed printer (stated hypotheses)) := by
  rw [drawn, Diagram.foldl_draw_lines, map_fst_withKeys]
  rfl

/-- The facts that are drawn are those that the hypotheses state, with their keys. -/
theorem drawn_facts (printer : Printer) (hypotheses : List Hypothesis) :
    (drawn printer hypotheses).program.facts = keyed printer (stated hypotheses) := by
  rw [Program.facts, drawn_lines, List.filterMap_cons_none rfl, filterMap_fact?_factLines]

/-- What is declared are the newcomers in the whole sequence of operands. -/
theorem drawn_declared (printer : Printer) (hypotheses : List Hypothesis) :
    (drawn printer hypotheses).program.declared =
      newcomers Prod.snd [] ((keyed printer (stated hypotheses)).flatMap Fact.typedOperands) := by
  rw [Program.declared, drawn_lines, List.filterMap_cons_none rfl, filterMap_declared?_factLines]

/-- Counting the lines that are facts counts the facts. -/
theorem Program.factCount_eq (program : Program) : program.factCount = program.facts.length := by
  unfold factCount facts
  rw [List.length_filterMap_eq_countP]
  apply List.countP_congr
  intro line _
  cases line <;> simp [Line.isFact, Line.fact?]

/-- If synthesis succeeds, there is no diagram exactly if no facts are stated, and no other
diagram than the one that is drawn. -/
theorem result_of_synthesize (printer : Printer) (hypotheses : List Hypothesis)
    (result : Option Diagram) (succeeds : synthesize printer hypotheses = .ok result) :
    (result = none ↔ keyed printer (stated hypotheses) = []) ∧
      ∀ diagram, result = some diagram → drawn printer hypotheses = diagram := by
  have displays := (synthesize_succeeds_iff printer hypotheses).mp ⟨result, succeeds⟩
  obtain ⟨found, foundSucceeds, vacant, only⟩ := synthesize_succeeds printer hypotheses displays
  obtain rfl : found = result := Except.ok.inj (foundSucceeds.symm.trans succeeds)
  refine ⟨?_, only⟩
  rw [vacant, Program.factCount_eq, drawn_facts, List.length_eq_zero_iff]

/-- The facts of a synthesized program are those that the hypotheses state, with their keys. -/
theorem facts_of_synthesize (printer : Printer) (hypotheses : List Hypothesis)
    (diagram : Diagram) (succeeds : synthesize printer hypotheses = .ok (some diagram)) :
    diagram.program.facts = keyed printer (stated hypotheses) := by
  obtain rfl := (result_of_synthesize printer hypotheses _ succeeds).2 diagram rfl
  exact drawn_facts printer hypotheses

/-- If every operand is displayed, synthesis succeeds, and its result is determined by the
sequence of stated facts with their keys. There is no diagram exactly if there are no facts.
Otherwise the program consists, line for line, of the header and the lines that the facts
contribute: each fact once for each time it is stated, and in front of it the declarations of
the keys that occur there for the first time, so that no key is declared twice. Hypotheses
that state nothing could as well be left out. -/
theorem synthesize_lines (printer : Printer) (hypotheses : List Hypothesis)
    (displays : Displays printer (stated hypotheses)) :
    (∃ result, synthesize printer hypotheses = .ok result ∧
      (result = none ↔ keyed printer (stated hypotheses) = []) ∧
      ∀ diagram, result = some diagram →
        diagram.program.lines =
          .autoLabel :: factLines [] (keyed printer (stated hypotheses)) ∧
        diagram.program.facts = keyed printer (stated hypotheses) ∧
        (diagram.program.declared.map Prod.snd).Nodup) ∧
    synthesize printer (hypotheses.filter fun hypothesis => !hypothesis.type.facts.isEmpty) =
      synthesize printer hypotheses := by
  obtain ⟨result, succeeds, vacant, only⟩ := synthesize_succeeds printer hypotheses displays
  refine ⟨⟨result, succeeds, ?_, ?_⟩, synthesize_filter printer hypotheses⟩
  · rw [vacant, Program.factCount_eq, drawn_facts, List.length_eq_zero_iff]
  · intro diagram found
    obtain rfl := only diagram found
    refine ⟨drawn_lines printer hypotheses, drawn_facts printer hypotheses, ?_⟩
    rw [drawn_declared]
    exact newcomers_keys_nodup Prod.snd [] _

/-- Hypotheses that repeat a key inside a fact and across facts, use keys at positions of two
kinds, state a fact twice, and state nothing. -/
def tangled : List Hypothesis :=
  [⟨⟨"h1"⟩, "h1", .apply "OnLine" [.var "a", .var "L"]⟩,
    ⟨⟨"h2"⟩, "h2", .apply "Eq" [.var "a", .var "b"]⟩,
    ⟨⟨"h3"⟩, "h3", .apply "Between" [.var "c", .apply "mid" [.var "a", .var "b"], .var "c"]⟩,
    ⟨⟨"h4"⟩, "h4", .apply "OnCircle" [.var "L", .var "c"]⟩,
    ⟨⟨"h1"⟩, "h5", .apply "OnLine" [.var "a", .var "L"]⟩]

/-- The display refuses a term here, but one that is no operand of a stated fact. -/
theorem synthesize_lines_tangled :
    Displays (Term.refusing "b") (stated tangled) ∧
      ∃ diagram, synthesize (Term.refusing "b") tangled = .ok (some diagram) ∧
        diagram.program.lines =
          [.autoLabel, .declare .point "a", .declare .line "L", .fact (.onLine "a" "L"),
            .declare .point "c", .declare .point "mid_a_b", .fact (.between "c" "mid_a_b" "c"),
            .fact (.onCircle "L" "c"), .fact (.onLine "a" "L")] := by
  have displays : Displays (Term.refusing "b") (stated tangled) := by decide
  obtain ⟨⟨result, succeeds, vacant, lines⟩, _⟩ :=
    synthesize_lines (Term.refusing "b") tangled displays
  cases result with
  | none => exact absurd (vacant.mp rfl) (by decide)
  | some diagram => exact ⟨displays, diagram, succeeds, (lines diagram rfl).1.trans (by decide)⟩

end PlaneFigure
