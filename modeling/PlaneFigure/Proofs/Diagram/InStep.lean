import PlaneFigure.Drawing.Renderer
import PlaneFigure.Proofs.Diagram.ProgramLines

/-!
# Registry and program stay in step

A diagram in the making keeps its objects twice: the registry holds them with their terms, and
the program declares them. Nothing in the type of diagrams ties the two together. What does is
that an operand is declared exactly when registering it made a new object, so every diagram
that steps lead to, from the blank one, is in step: the program declares the registered objects
in the order of the registry, no key twice, each in front of the first fact that uses it.

The steps may display terms in ways that have nothing to do with each other. A fact is drawn
from its keys, wherever these come from, and one drawn fact preserves everything that is said
here.

Labels are made from the registry, while the layout engine reads the program. Because the two
are in step, there is one label for every declaration, in the same order.
-/

namespace PlaneFigure

open Term (Printer)

/-- The diagrams that steps lead to. Every step may display terms in its own way. -/
inductive Reachable : Diagram → Prop where
  | blank : Reachable .blank
  | step (printer : Printer) (diagram : Diagram) (hypothesis : Hypothesis) (next : Diagram)
      (reached : Reachable diagram) (steps : diagram.step printer hypothesis = .ok next) :
      Reachable next

/-- The objects of a registry, in order. -/
def Registry.objects (registry : Registry) : List (Kind × String) :=
  registry.entities.map fun entity => (entity.kind, entity.key)

/-- What ties registry and program of a diagram together. -/
structure InStep (diagram : Diagram) : Prop where
  /-- The header comes first and nowhere else. -/
  header : ∃ rest, diagram.program.lines = .autoLabel :: rest ∧ .autoLabel ∉ rest
  /-- The declarations are those of the registered objects, in order. -/
  declared : diagram.program.declared = diagram.registry.objects
  /-- No key is declared twice. -/
  distinct : (diagram.program.declared.map Prod.snd).Nodup
  /-- Every operand of a fact is declared on an earlier line. -/
  earlier : ∀ before fact after, diagram.program.lines = before ++ .fact fact :: after →
    ∀ key ∈ fact.operands, ∃ kind, .declare kind key ∈ before
  /-- Behind a declaration, with nothing but declarations between, comes a fact that uses the
  declared key. -/
  used : ∀ before kind key after, diagram.program.lines = before ++ .declare kind key :: after →
    ∃ (declarations : List (Kind × String)) (fact : Fact String) (later : List Line),
      after = declarations.map Line.ofOperand ++ .fact fact :: later ∧ key ∈ fact.operands

/-- The keys of a registry are those of its objects. -/
theorem Registry.map_snd_objects (registry : Registry) :
    registry.objects.map Prod.snd = registry.keys := by
  simp [objects, keys]

/-- An item of a list in two parts stands in the first part or in the second. -/
theorem append_eq_append_cons {α : Type} (first second before after : List α) (item : α)
    (split : first ++ second = before ++ item :: after) :
    (∃ rest, first = before ++ item :: rest ∧ after = rest ++ second) ∨
      ∃ front, before = first ++ front ∧ second = front ++ item :: after := by
  rcases List.append_eq_append_iff.mp split with ⟨front, inFront, behind⟩ | ⟨rest, whole, behind⟩
  · exact .inr ⟨front, inFront, behind⟩
  · cases rest with
    | nil => exact .inr ⟨[], by simpa using whole.symm, by simpa using behind.symm⟩
    | cons other others =>
      obtain ⟨rfl, rfl⟩ := List.cons.inj behind
      exact .inl ⟨others, whole, rfl⟩

/-- An item of a list with a last one stands in front of the last one or is the last one. -/
theorem append_singleton_eq_append_cons {α : Type} (first before after : List α) (last item : α)
    (split : first ++ [last] = before ++ item :: after) :
    (∃ rest, first = before ++ item :: rest ∧ after = rest ++ [last]) ∨
      (before = first ∧ item = last) := by
  rcases append_eq_append_cons first [last] before after item split with
    inFirst | ⟨front, whole, ends⟩
  · exact .inl inFirst
  · obtain ⟨rfl, same⟩ : front = [] ∧ last = item := by
      cases front <;> simp_all
    exact .inr ⟨by simpa using whole, same.symm⟩

/-- The objects that drawing a fact registers are those that it declares. -/
theorem Diagram.draw_objects (diagram : Diagram) (fact : Fact (String × Term)) :
    (diagram.draw fact).registry.objects = diagram.registry.objects ++
      freshOperands diagram.registry.keys (fact.map Prod.fst) := by
  have fresh : freshOperands diagram.registry.keys (fact.map Prod.fst) =
      (diagram.registry.unregistered fact.typedOperands).map
        fun operand => (operand.1, operand.2.1) := by
    rw [freshOperands, Fact.typedOperands_map, newcomers_map]
    rfl
  rw [draw_eq, fresh]
  unfold Registry.objects
  rw [(introduceAll_exact diagram _).1, List.map_append, List.map_map]
  conv_rhs =>
    rw [← List.zipIdx_map_fst diagram.registry.size (diagram.registry.unregistered _)]
  rw [List.map_map]
  rfl

/-- The operands that are declared for a fact are operands of the fact. -/
theorem mem_operands_of_fresh (known : List String) (fact : Fact String)
    (operand : Kind × String) (fresh : operand ∈ freshOperands known fact) :
    operand.2 ∈ fact.operands :=
  fact.mem_operands_of_typed operand ((newcomers_sublist Prod.snd known _).subset fresh)

/-- The blank diagram has the header and nothing else. -/
theorem InStep.blank : InStep .blank where
  header := ⟨[], rfl, List.not_mem_nil⟩
  declared := rfl
  distinct := List.nodup_nil
  earlier before fact after split := by
    rcases List.singleton_eq_append_iff.mp split with ⟨_, found⟩ | ⟨_, found⟩ <;> cases found
  used before kind key after split := by
    rcases List.singleton_eq_append_iff.mp split with ⟨_, found⟩ | ⟨_, found⟩ <;> cases found

section InStep

variable {diagram : Diagram}

/-- The declared keys are the registered ones. -/
theorem InStep.keys (inStep : InStep diagram) :
    diagram.program.declared.map Prod.snd = diagram.registry.keys := by
  rw [inStep.declared, Registry.map_snd_objects]

/-- What a drawn fact declares is appended to the declarations. -/
theorem Diagram.draw_declared (diagram : Diagram) (fact : Fact (String × Term)) :
    (diagram.draw fact).program.declared = diagram.program.declared ++
      freshOperands diagram.registry.keys (fact.map Prod.fst) := by
  unfold Program.declared
  rw [draw_lines, List.filterMap_append, List.filterMap_append, declared?_map_ofOperand]
  exact List.append_nil _

/-- Every operand of a fact is registered already or declared for the fact. -/
theorem InStep.operand_declared (inStep : InStep diagram) (fact : Fact String) (key : String)
    (member : key ∈ fact.operands) :
    ∃ kind, .declare kind key ∈ diagram.program.lines ++
      (freshOperands diagram.registry.keys fact).map Line.ofOperand := by
  by_cases known : key ∈ diagram.registry.keys
  · rw [← inStep.keys] at known
    obtain ⟨⟨kind, other⟩, declared, rfl⟩ := List.mem_map.mp known
    exact ⟨kind, List.mem_append_left _ ((diagram.program.mem_declared kind other).mp declared)⟩
  · have fresh : key ∈ (freshOperands diagram.registry.keys fact).map Prod.snd := by
      rw [freshOperands, mem_keys_newcomers, Fact.map_snd_typedOperands]
      exact ⟨member, known⟩
    obtain ⟨⟨kind, other⟩, declared, rfl⟩ := List.mem_map.mp fresh
    exact ⟨kind, List.mem_append_right _ (List.mem_map_of_mem declared)⟩

/-- Drawing a fact keeps a diagram in step. A line of the new program is a line of the old one,
a new declaration, or the new fact. -/
theorem InStep.draw (inStep : InStep diagram) (fact : Fact (String × Term)) :
    InStep (diagram.draw fact) where
  header := by
    obtain ⟨rest, lines, absent⟩ := inStep.header
    rw [Diagram.draw_lines, lines]
    refine ⟨_, rfl, ?_⟩
    simp [absent, Line.ofOperand]
  declared := by
    rw [Diagram.draw_declared, Diagram.draw_objects, inStep.declared]
  distinct := by
    rw [Diagram.draw_declared, List.map_append, List.nodup_append]
    refine ⟨inStep.distinct, newcomers_keys_nodup Prod.snd _ _, ?_⟩
    rintro key known _ fresh rfl
    rw [freshOperands, mem_keys_newcomers, ← inStep.keys] at fresh
    exact fresh.2 known
  earlier before stated after split := by
    rw [Diagram.draw_lines, List.append_assoc] at split
    rcases append_eq_append_cons _ _ _ _ _ split with ⟨rest, old, _⟩ | ⟨front, rfl, new⟩
    -- An old fact has the same lines in front of it as before.
    · exact inStep.earlier before stated rest old
    · rcases append_singleton_eq_append_cons _ _ _ _ _ new with ⟨rest, declares, _⟩ | ⟨rfl, same⟩
      · have member : Line.fact stated ∈ (freshOperands diagram.registry.keys
            (fact.map Prod.fst)).map Line.ofOperand := by
          rw [declares]
          simp
        obtain ⟨operand, _, found⟩ := List.mem_map.mp member
        cases found
      · obtain rfl : stated = fact.map Prod.fst := Line.fact.inj same
        exact inStep.operand_declared (fact.map Prod.fst)
  used before kind key after split := by
    rw [Diagram.draw_lines, List.append_assoc] at split
    rcases append_eq_append_cons _ _ _ _ _ split with ⟨rest, old, rfl⟩ | ⟨front, rfl, new⟩
    -- Behind an old declaration more lines follow than before, but none in between.
    · obtain ⟨declarations, stated, later, rfl, operand⟩ := inStep.used before kind key rest old
      exact ⟨declarations, stated, _, List.append_assoc .., operand⟩
    -- Behind a new declaration come the other new ones and then the fact they are made for.
    · rcases append_singleton_eq_append_cons _ _ _ _ _ new with ⟨rest, declares, rfl⟩ | ⟨_, same⟩
      · obtain ⟨earlier, others, fresh, _, found⟩ := List.map_eq_append_iff.mp declares
        obtain ⟨operand, declarations, rfl, declared, rfl⟩ := List.map_eq_cons_iff.mp found
        obtain ⟨rfl, rfl⟩ : operand.1 = kind ∧ operand.2 = key := Line.declare.inj declared
        have isFresh : operand ∈ freshOperands diagram.registry.keys (fact.map Prod.fst) := by
          rw [fresh]
          simp
        exact ⟨declarations, fact.map Prod.fst, [], rfl, mem_operands_of_fresh _ _ operand isFresh⟩
      · cases same

end InStep

/-- The diagram that is drawn from hypotheses is in step. -/
theorem InStep.drawn (printer : Printer) (hypotheses : List Hypothesis) :
    InStep (drawn printer hypotheses) :=
  List.foldlRecOn _ _ .blank fun _ held fact _ => held.draw fact

/-- A step keeps a diagram in step: it draws the facts that the hypothesis states, unless it
fails. -/
theorem InStep.step (printer : Printer) (diagram : Diagram) (hypothesis : Hypothesis)
    (next : Diagram) (inStep : InStep diagram)
    (steps : diagram.step printer hypothesis = .ok next) : InStep next := by
  refine Diagram.step_preserves InStep ?_ printer diagram hypothesis next inStep steps
  intro reached fact held
  exact held.draw fact

/-- Every diagram that steps lead to is in step. -/
theorem Reachable.inStep (diagram : Diagram) (reached : Reachable diagram) : InStep diagram := by
  induction reached with
  | blank => exact .blank
  | step printer diagram hypothesis next _ steps inductionHypothesis =>
    exact inductionHypothesis.step printer diagram hypothesis next steps

/-- Steps lead to every diagram that is synthesized. -/
theorem reachable_of_synthesize (printer : Printer) (hypotheses : List Hypothesis)
    (diagram : Diagram) (succeeds : synthesize printer hypotheses = .ok (some diagram)) :
    Reachable diagram := by
  unfold synthesize at succeeds
  obtain ⟨last, steps, returns⟩ := (bind_eq_ok_iff _ _ _).mp succeeds
  have result : (if last.program.factCount = 0 then none else some last) = some diagram :=
    Except.ok.inj returns
  by_cases vacant : last.program.factCount = 0
  · simp [vacant] at result
  · obtain rfl : last = diagram := by simpa [vacant] using result
    exact foldlM_preserves _ Reachable (Reachable.step printer) hypotheses .blank last .blank steps

/-- The text that a label shows is the key. -/
theorem Entity.textContent_label (entity : Entity) :
    entity.label.markup.textContent = entity.key := by
  simp [label, Markup.withAttribute, Markup.textContent, Markup.textContents]

/-- There is one label for each object of the registry, in order, and it shows the key. -/
theorem labels_ofDiagram (diagram : Diagram) (settings : Settings) :
    (Drawing.ofDiagram diagram settings).labels.map
        (fun label => (label.kind, label.key, label.markup.textContent)) =
      diagram.registry.objects.map fun object => (object.1, object.2, object.2) := by
  simp only [Drawing.ofDiagram, Registry.objects, List.map_map]
  apply List.map_congr_left
  intro entity _
  simp only [Function.comp_apply, Entity.textContent_label]
  rfl

/-- The key of an embedded label, the first of the two items that are handed to a component. -/
def embeddedKey? : Json → Option String
  | .array [.string key, _] => some key
  | _ => none

/-- Every diagram that steps lead to is in step, however each step displays terms: the header
comes first and nowhere else, the registered objects are declared in order and no key twice,
operands are declared in front of the facts that use them, and every declaration belongs to a
fact that follows. A synthesized diagram is one of these. Its drawing therefore has exactly one
label for each declaration, in the same order, with the key and the kind that are declared,
which shows the key; and a component is handed labels for these keys in this order. -/
theorem reachable_in_step :
    (∀ diagram, Reachable diagram → InStep diagram) ∧
    ∀ printer hypotheses diagram, synthesize printer hypotheses = .ok (some diagram) →
      InStep diagram ∧
      ∀ settings name,
        (Drawing.ofDiagram diagram settings).labels.map
            (fun label => (label.kind, label.key, label.markup.textContent)) =
          diagram.program.declared.map (fun object => (object.1, object.2, object.2)) ∧
        ∃ members items,
          Renderer.component name (Drawing.ofDiagram diagram settings) =
            .ok (.component name (.object members)) ∧
          members.lookup "embeds" = some (.array items) ∧
          items.map embeddedKey? = diagram.program.declared.map fun object => some object.2 := by
  refine ⟨Reachable.inStep, ?_⟩
  intro printer hypotheses diagram succeeds
  have inStep := (reachable_of_synthesize printer hypotheses diagram succeeds).inStep
  refine ⟨inStep, ?_⟩
  intro settings name
  have labels := labels_ofDiagram diagram settings
  rw [← inStep.declared] at labels
  refine ⟨labels, _, _, rfl, rfl, ?_⟩
  have keys := congrArg (List.map fun label => some label.2.1) labels
  rw [List.map_map, List.map_map] at keys
  rw [List.map_map]
  exact keys

/-- One step displays terms by their names and the next one displays all of them alike. The
labels of a diagram with a key at positions of two kinds have the kinds that are declared. -/
theorem reachable_in_step_displays :
    (∃ diagram, Reachable diagram ∧
      diagram.program.lines =
        [.autoLabel, .declare .point "a", .declare .line "L", .fact (.onLine "a" "L"),
          .declare .point "o", .fact (.onCircle "o" "o")] ∧
      diagram.program.declared = diagram.registry.objects) ∧
    ∃ diagram, synthesize (Term.refusing "b") tangled = .ok (some diagram) ∧
      (Drawing.ofDiagram diagram .standard).labels.map
          (fun label => (label.kind, label.key, label.markup.textContent)) =
        [(.point, "a", "a"), (.line, "L", "L"), (.point, "c", "c"),
          (.point, "mid_a_b", "mid_a_b")] := by
  obtain ⟨inStep, labels⟩ := reachable_in_step
  constructor
  · have first := Reachable.step Term.plain .blank
      ⟨⟨"h1"⟩, "h1", .apply "OnLine" [.var "a", .var "L"]⟩ _ .blank rfl
    have second := Reachable.step (Term.constantly "o") _
      ⟨⟨"h2"⟩, "h2", .apply "OnCircle" [.var "b", .var "C"]⟩ _ first rfl
    exact ⟨_, second, by decide, (inStep _ second).declared⟩
  · have succeeds : synthesize (Term.refusing "b") tangled =
        .ok (some (drawn (Term.refusing "b") tangled)) := by
      rw [synthesize_eq_drawn _ tangled (by decide), if_neg (by decide)]
    refine ⟨_, succeeds, ?_⟩
    rw [((labels _ tangled _ succeeds).2 .standard "").1]
    decide

end PlaneFigure
