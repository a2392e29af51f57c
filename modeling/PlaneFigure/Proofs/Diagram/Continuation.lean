import PlaneFigure.Proofs.Diagram.InStep

/-!
# Taking more hypotheses into account

A diagram in the making can be continued with more hypotheses. What is there already stays as
it is, line for line and object for object: every step only adds behind. What it adds differs
from what the same hypotheses draw from the blank diagram in one respect. Keys that are
registered beforehand are not declared again, and no objects are made for them.

So two lists of hypotheses, taken one after the other, draw what they draw by themselves,
without the second header, the declarations of keys that the first list declares, and the
objects with these keys. The objects that remain are counted on from those of the first list,
in the same relative order. This holds of keys that are repeated or that are used at positions
of two kinds as well: the first list decides them, whatever the second one would do.
-/

namespace PlaneFigure

open Term (Printer)

/-- A diagram continues an earlier one: what was there is unchanged, and the rest comes behind
it. -/
structure Continues (earlier later : Diagram) : Prop where
  lines : earlier.program.lines <+: later.program.lines
  entities : earlier.registry.entities <+: later.registry.entities

namespace Continues

/-- Nothing needs to be added. -/
theorem refl (diagram : Diagram) : Continues diagram diagram :=
  ⟨List.prefix_rfl, List.prefix_rfl⟩

/-- Adding behind what was added leaves the beginning as it is. -/
theorem trans {first second third : Diagram} (before : Continues first second)
    (after : Continues second third) : Continues first third :=
  ⟨before.lines.trans after.lines, before.entities.trans after.entities⟩

/-- Drawing a fact adds objects behind the objects and lines behind the lines. -/
theorem draw (diagram : Diagram) (fact : Fact (String × Term)) :
    Continues diagram (diagram.draw fact) where
  lines := by
    rw [Diagram.draw_lines, List.append_assoc]
    exact List.prefix_append _ _
  entities := by
    rw [Diagram.draw_eq, (diagram.introduceAll_exact fact.typedOperands).1]
    exact List.prefix_append _ _

/-- Whatever a run adds, it leaves the diagram that it starts from as it is. -/
theorem run (printer : Printer) (hypotheses : List Hypothesis) (diagram last : Diagram)
    (runs : hypotheses.foldlM (Diagram.step printer) diagram = .ok last) :
    Continues diagram last := by
  refine Diagram.run_preserves (Continues diagram) ?_ printer hypotheses diagram last
    (.refl diagram) runs
  intro reached fact continued
  exact continued.trans (.draw reached fact)

end Continues

/-- The line declares an object with one of the keys. -/
def Line.declaresAmong (keys : List String) : Line → Bool
  | .declare _ key => keys.contains key
  | _ => false

/-- Objects that are counted on from a number. -/
def Entity.countedFrom (number : Nat) (entities : List Entity) : List Entity :=
  (entities.zipIdx number).map fun (entity, order) => { entity with order }

/-- Knowing more keys beforehand takes away the declarations of these keys and nothing else. -/
theorem factLines_append (known more : List String) (facts : List (Fact String)) :
    factLines (known ++ more) facts =
      (factLines known facts).filter fun line => !line.declaresAmong more := by
  induction facts generalizing known with
  | nil => rfl
  | cons fact rest inductionHypothesis =>
    have reordered : ∀ key, key ∈ known ++ more ++ fact.operands ↔
        key ∈ known ++ fact.operands ++ more := by
      intro key
      simp only [List.mem_append, or_assoc, or_comm]
    have declarations : (freshOperands (known ++ more) fact).map Line.ofOperand =
        ((freshOperands known fact).map Line.ofOperand).filter
          fun line => !line.declaresAmong more := by
      rw [freshOperands, newcomers_append_earlier, List.filter_map]
      apply congrArg (List.map Line.ofOperand)
      apply List.filter_congr
      intro operand _
      simp [Line.ofOperand, Line.declaresAmong]
    have states : (!(Line.fact fact).declaresAmong more) = true := rfl
    rw [factLines_cons, factLines_cons, factLines_congr _ _ rest reordered,
      inductionHypothesis, declarations, List.filter_append, List.filter_cons, if_pos states]

/-- The operands of hypotheses in order, each with the kind of its position and its key. -/
def keyedOperands (printer : Printer) (hypotheses : List Hypothesis) :
    List (Kind × String × Term) :=
  ((stated hypotheses).map (withKeys printer)).flatMap Fact.typedOperands

/-- Drawing the facts of hypotheses makes an object of every operand whose key is not
registered and belongs to no earlier operand. -/
theorem foldl_draw_entities (printer : Printer) (hypotheses : List Hypothesis)
    (diagram : Diagram) :
    (((stated hypotheses).map (withKeys printer)).foldl Diagram.draw diagram).registry.entities =
      diagram.registry.entities ++
        ((diagram.registry.unregistered (keyedOperands printer hypotheses)).zipIdx
          diagram.registry.size).map fun placed => Entity.ofOperand placed.1 placed.2 := by
  rw [Diagram.foldl_draw_registry]
  exact Registry.entities_registerAll diagram.registry _

/-- Counting on objects with some of the keys is counting the operands with these keys. -/
theorem Entity.countedFrom_filter (number start : Nat) (kept : String → Bool)
    (operands : List (Kind × String × Term)) :
    countedFrom number
        (((operands.zipIdx start).map fun placed => ofOperand placed.1 placed.2).filter
          fun entity => kept entity.key) =
      ((operands.filter fun operand => kept operand.2.1).zipIdx number).map
        fun placed => ofOperand placed.1 placed.2 := by
  induction operands generalizing number start with
  | nil => rfl
  | cons operand rest inductionHypothesis =>
    -- Both counts go on for a kept operand, and only the first one for another.
    by_cases keeps : kept operand.2.1
    · have first : kept (ofOperand operand start).key = true := keeps
      rw [List.zipIdx_cons, List.map_cons, List.filter_cons, if_pos first, List.filter_cons,
        if_pos keeps, List.zipIdx_cons, List.map_cons,
        ← inductionHypothesis (number + 1) (start + 1)]
      rfl
    · have first : ¬ kept (ofOperand operand start).key = true := keeps
      rw [List.zipIdx_cons, List.map_cons, List.filter_cons, if_neg first, List.filter_cons,
        if_neg keeps, inductionHypothesis number (start + 1)]

/-- What hypotheses register from the blank diagram decides what they register from another
one: the objects whose keys are not there, counted on. -/
theorem foldl_draw_entities_eq (printer : Printer) (hypotheses : List Hypothesis)
    (diagram : Diagram) :
    (((stated hypotheses).map (withKeys printer)).foldl Diagram.draw diagram).registry.entities =
      diagram.registry.entities ++ Entity.countedFrom diagram.registry.size
        ((drawn printer hypotheses).registry.entities.filter
          fun entity => !diagram.registry.keys.contains entity.key) := by
  have alone : (drawn printer hypotheses).registry.entities =
      ((newcomers (fun operand => operand.2.1) []
        (keyedOperands printer hypotheses)).zipIdx 0).map
          fun placed => Entity.ofOperand placed.1 placed.2 := by
    rw [drawn, foldl_draw_entities]
    rfl
  have fresh : diagram.registry.unregistered (keyedOperands printer hypotheses) =
      (newcomers (fun operand => operand.2.1) [] (keyedOperands printer hypotheses)).filter
        fun operand => !diagram.registry.keys.contains operand.2.1 := by
    rw [Registry.unregistered, ← List.nil_append diagram.registry.keys, newcomers_append_earlier]
    apply List.filter_congr
    intro operand _
    simp
  rw [foldl_draw_entities, fresh, alone, Entity.countedFrom_filter _ _
    fun key => !diagram.registry.keys.contains key]

/-- The objects that hypotheses register are numbered without gaps. -/
theorem orders_drawn (printer : Printer) (hypotheses : List Hypothesis) :
    (drawn printer hypotheses).registry.entities.map (·.order) =
      List.range (drawn printer hypotheses).registry.size := by
  rw [drawn, Diagram.foldl_draw_registry]
  exact Registry.orders_registerAll_empty _

/-- The facts of two lists of hypotheses are drawn one after the other. -/
theorem drawn_append (printer : Printer) (first second : List Hypothesis) :
    drawn printer (first ++ second) =
      ((stated second).map (withKeys printer)).foldl Diagram.draw (drawn printer first) := by
  rw [drawn, stated_append, List.map_append, List.foldl_append]
  rfl

/-- Two lists of hypotheses whose operands are displayed are taken one after the other without
failure. The program is that of the first list, followed by that of the second list on its own,
without the header and without the declarations of keys that are declared in the first program.
The registry is that of the first list, followed by the objects of the second list on its own
whose keys it does not contain, in the same order and counted on, so that the numbers have no
gaps. Wherever a run starts and however far it goes, it never changes what is there. -/
theorem run_append (printer : Printer) (first second : List Hypothesis)
    (displaysFirst : Displays printer (stated first))
    (displaysSecond : Displays printer (stated second)) :
    (∃ before alone whole rest,
      first.foldlM (Diagram.step printer) .blank = .ok before ∧
      second.foldlM (Diagram.step printer) .blank = .ok alone ∧
      (first ++ second).foldlM (Diagram.step printer) .blank = .ok whole ∧
      alone.program.lines = .autoLabel :: rest ∧
      whole.program.lines = before.program.lines ++
        rest.filter (fun line =>
          !line.declaresAmong (before.program.declared.map Prod.snd)) ∧
      whole.registry.entities = before.registry.entities ++
        Entity.countedFrom before.registry.size
          (alone.registry.entities.filter fun entity =>
            !before.registry.contains entity.key) ∧
      whole.registry.entities.map (·.order) = List.range whole.registry.size) ∧
    ∀ (more : List Hypothesis) (diagram last : Diagram),
      more.foldlM (Diagram.step printer) diagram = .ok last → Continues diagram last := by
  have displays : Displays printer (stated (first ++ second)) := by
    rw [stated_append]
    exact List.forall_mem_append.mpr ⟨displaysFirst, displaysSecond⟩
  have runsFirst := run_eq_drawn printer first displaysFirst
  have inStep : InStep (drawn printer first) :=
    Diagram.run_preserves InStep (fun _ fact held => held.draw fact) printer first .blank _ .blank
      runsFirst
  refine ⟨⟨drawn printer first, drawn printer second, drawn printer (first ++ second), _,
    runsFirst, run_eq_drawn printer second displaysSecond,
    run_eq_drawn printer (first ++ second) displays, drawn_lines printer second, ?_, ?_,
    orders_drawn printer (first ++ second)⟩, Continues.run printer⟩
  -- What the first list declares is what its registry holds, and the registry decides.
  · rw [drawn_append, Diagram.foldl_draw_lines, map_fst_withKeys, inStep.keys,
      ← factLines_append, List.nil_append]
  · rw [drawn_append, foldl_draw_entities_eq]
    simp only [Registry.contains_eq]

/-- The beginning of a construction. -/
def outset : List Hypothesis :=
  [⟨⟨"h1"⟩, "h1", .apply "OnLine" [.var "a", .var "L"]⟩,
    ⟨⟨"h2"⟩, "h2", .apply "Eq" [.var "a", .var "b"]⟩]

/-- A construction that repeats a key of `outset` at a position of another kind. -/
def sequel : List Hypothesis :=
  [⟨⟨"h3"⟩, "h3", .apply "OnCircle" [.var "L", .var "c"]⟩,
    ⟨⟨"h4"⟩, "h4", .apply "Between" [.var "c", .var "a", .var "b"]⟩]

/-- The key that is declared as a line stays a line, although it would be a point otherwise, and
objects that come behind it are counted on. -/
theorem run_append_sequel :
    Displays Term.plain (stated outset) ∧ Displays Term.plain (stated sequel) ∧
    ∃ alone whole,
      sequel.foldlM (Diagram.step Term.plain) .blank = .ok alone ∧
      alone.program.lines =
        [.autoLabel, .declare .point "L", .declare .circle "c", .fact (.onCircle "L" "c"),
          .declare .point "a", .declare .point "b", .fact (.between "c" "a" "b")] ∧
      (outset ++ sequel).foldlM (Diagram.step Term.plain) .blank = .ok whole ∧
      whole.program.lines =
        [.autoLabel, .declare .point "a", .declare .line "L", .fact (.onLine "a" "L"),
          .declare .circle "c", .fact (.onCircle "L" "c"), .declare .point "b",
          .fact (.between "c" "a" "b")] ∧
      whole.registry.entities =
        [⟨.point, "a", .var "a", 0⟩, ⟨.line, "L", .var "L", 1⟩, ⟨.circle, "c", .var "c", 2⟩,
          ⟨.point, "b", .var "b", 3⟩] := by
  have displaysFirst : Displays Term.plain (stated outset) := by decide
  have displaysSecond : Displays Term.plain (stated sequel) := by decide
  obtain ⟨⟨before, alone, whole, rest, runsFirst, runsSecond, runs, header, lines, entities, _⟩,
    _⟩ := run_append Term.plain outset sequel displaysFirst displaysSecond
  obtain rfl := Except.ok.inj ((run_eq_drawn _ _ displaysFirst).symm.trans runsFirst)
  obtain rfl := Except.ok.inj ((run_eq_drawn _ _ displaysSecond).symm.trans runsSecond)
  have drawsAlone : (drawn Term.plain sequel).program.lines =
      [.autoLabel, .declare .point "L", .declare .circle "c", .fact (.onCircle "L" "c"),
        .declare .point "a", .declare .point "b", .fact (.between "c" "a" "b")] := by
    decide
  obtain rfl := (List.cons.inj (header.symm.trans drawsAlone)).2
  exact ⟨displaysFirst, displaysSecond, _, whole, runsSecond, header, runs,
    lines.trans (by decide), entities.trans (by decide)⟩

end PlaneFigure
