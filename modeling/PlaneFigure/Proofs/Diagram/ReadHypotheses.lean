import PlaneFigure.Proofs.Diagram.ProgramText
import PlaneFigure.Proofs.Diagram.Recognition
import PlaneFigure.Proofs.Term.Displayed

/-!
# Diagrams of hypotheses that were read from text

When the types of hypotheses were read from text, their operands have few enough layers for
the plain display and names for their names. So the plain display does not fail on them, and
the keys are names again. All keys of the program are keys of operands, and with names for
keys a program is read back from its text.
-/

namespace PlaneFigure

open Text

/-- The operands of a stated fact are arguments of the term that states it. -/
theorem Term.mem_args_of_facts (term operand : Term) (fact : Fact Term)
    (states : fact ∈ term.facts) (member : operand ∈ fact.operands) : operand ∈ term.args := by
  obtain ⟨_, operands⟩ := (eq_apply_iff term _ _).mp ((mem_facts_iff term fact).mp states)
  rw [operands]
  exact member

/-- The hypotheses have types that were read from text. -/
def ReadFromText (hypotheses : List Hypothesis) : Prop :=
  ∀ hypothesis ∈ hypotheses, ∃ text, Term.read text = .ok hypothesis.type

/-- The plain display shows an operand of a stated fact as a name. -/
theorem plain_operand (hypotheses : List Hypothesis) (read : ReadFromText hypotheses)
    (fact : Fact Term) (states : fact ∈ stated hypotheses) (operand : Term)
    (member : operand ∈ fact.operands) : ∃ key, Term.plain operand = .ok key ∧ IsName key := by
  obtain ⟨hypothesis, given, among⟩ := List.mem_flatMap.mp states
  obtain ⟨text, returns⟩ := read hypothesis given
  obtain ⟨named, shallow⟩ := Term.names_and_layers_of_read text hypothesis.type returns
  have argument := Term.mem_args_of_facts hypothesis.type operand fact among member
  obtain ⟨fewer, contained⟩ :=
    Term.layers_lt_of_mem_args hypothesis.type operand argument
  apply Term.plain_isName
  · intro name found
    exact named name (contained name found)
  · omega

/-- The plain display fails on no operand of a stated fact. -/
theorem displays_plain (hypotheses : List Hypothesis) (read : ReadFromText hypotheses) :
    Displays Term.plain (stated hypotheses) := by
  intro fact states operand member
  obtain ⟨key, shown, _⟩ := plain_operand hypotheses read fact states operand member
  rw [shown]
  rfl

/-- The keys of stated facts are names. -/
theorem isName_keyed (hypotheses : List Hypothesis) (read : ReadFromText hypotheses) :
    ∀ fact ∈ keyed Term.plain (stated hypotheses), ∀ key ∈ fact.operands, IsName key := by
  intro fact states key found
  obtain ⟨original, among, rfl⟩ := List.mem_map.mp states
  rw [Fact.operands_map] at found
  obtain ⟨operand, member, rfl⟩ := List.mem_map.mp found
  obtain ⟨name, shown, named⟩ := plain_operand hypotheses read original among operand member
  simpa [keyOf, shown] using named

/-- The lines that facts contribute have no keys but those of the facts. -/
theorem keys_factLines (known : List String) (facts : List (Fact String)) :
    ∀ line ∈ factLines known facts, ∀ key ∈ line.keys, ∃ fact ∈ facts, key ∈ fact.operands := by
  induction facts generalizing known with
  | nil => simp [factLines]
  | cons fact rest inductionHypothesis =>
    intro line member key found
    rw [factLines_cons, List.mem_append, List.mem_cons] at member
    rcases member with declares | rfl | later
    · obtain ⟨operand, fresh, rfl⟩ := List.mem_map.mp declares
      obtain rfl : key = operand.2 := List.mem_singleton.mp found
      have occurs := (mem_keys_newcomers Prod.snd known fact.typedOperands operand.2).mp
        (List.mem_map_of_mem fresh)
      rw [Fact.map_snd_typedOperands] at occurs
      exact ⟨fact, List.mem_cons_self, occurs.1⟩
    · exact ⟨fact, List.mem_cons_self, found⟩
    · obtain ⟨other, among, occurs⟩ := inductionHypothesis _ line later key found
      exact ⟨other, List.mem_cons_of_mem fact among, occurs⟩

/-- The keys of the program that is drawn are names. -/
theorem isName_keys_drawn (hypotheses : List Hypothesis) (read : ReadFromText hypotheses) :
    ∀ key ∈ (drawn Term.plain hypotheses).program.keys, IsName key := by
  intro key found
  obtain ⟨line, member, among⟩ := List.mem_flatMap.mp found
  rw [drawn_lines, List.mem_cons] at member
  rcases member with rfl | contributed
  · simp [Line.keys] at among
  · obtain ⟨fact, states, occurs⟩ := keys_factLines [] _ line contributed key among
    exact isName_keyed hypotheses read fact states key occurs

/-- From hypotheses whose types were read from text, synthesis with the plain display does not
fail. If it yields a diagram, all keys of the program are names, the lines of its text are
those of the program, each of them is produced in exactly one way, and the program is read
back from its text. The text of a program whose keys are made of name characters determines
the program, whether or not it was synthesized. -/
theorem synthesize_plain_readable (hypotheses : List Hypothesis)
    (read : ReadFromText hypotheses) :
    (∃ result, synthesize Term.plain hypotheses = .ok result ∧
      ∀ diagram, result = some diagram →
        (∀ key ∈ diagram.program.keys, IsName key) ∧
        textLines diagram.program.text = diagram.program.lines.map Line.text ∧
        (∀ line ∈ diagram.program.lines, Produces line.production line.keys line.text ∧
          ∀ other otherKeys, Produces other otherKeys line.text →
            other = line.production ∧ otherKeys = line.keys) ∧
        Program.ofText? diagram.program.text = some diagram.program) ∧
    ∀ program other : Program,
      (∀ key ∈ program.keys, Spelled key) → (∀ key ∈ other.keys, Spelled key) →
        program.text = other.text → program = other := by
  obtain ⟨result, succeeds, _, only⟩ :=
    synthesize_succeeds Term.plain hypotheses (displays_plain hypotheses read)
  refine ⟨⟨result, succeeds, ?_⟩, ?_⟩
  · intro diagram found
    obtain rfl := only diagram found
    have named := isName_keys_drawn hypotheses read
    have spelled : ∀ key ∈ (drawn Term.plain hypotheses).program.keys, Spelled key :=
      fun key member => (named key member).2
    have inhabited : (drawn Term.plain hypotheses).program.lines ≠ [] := by
      rw [drawn_lines]
      exact List.cons_ne_nil _ _
    refine ⟨named, Program.textLines_text _ inhabited spelled, ?_, Program.ofText?_text _ spelled⟩
    intro line member
    have produces := line.produces (Program.spelled_line _ spelled line member)
    exact ⟨produces, fun other otherKeys otherwise =>
      produces.unique line.production other line.keys otherKeys line.text otherwise⟩
  · intro program other spelled otherSpelled same
    have back := Program.ofText?_text program spelled
    rw [same, Program.ofText?_text other otherSpelled] at back
    exact (Option.some.inj back).symm

/-- Hypotheses with a compound operand in parentheses, a predicate in parentheses, and no
fact. -/
def sketched : List Hypothesis :=
  [⟨⟨"h1"⟩, "h1", .apply "OnLine" [.apply "mid" [.var "a'", .var "b"], .var "L"]⟩,
    ⟨⟨"h2"⟩, "h2", .apply "Eq" [.var "a'", .var "b"]⟩,
    ⟨⟨"h3"⟩, "h3", .apply "OnCircle" [.var "b", .var "β"]⟩]

/-- Three texts that state two facts. Texts also tell programs apart that are never synthesized,
such as a declaration without a header and with an empty key. -/
theorem synthesize_plain_readable_sketched :
    ReadFromText sketched ∧
      (∃ diagram, synthesize Term.plain sketched = .ok (some diagram) ∧
        textLines diagram.program.text =
          ["AutoLabel All", "Point mid_a'_b", "Line L", "OnLine(mid_a'_b, L)", "Point b",
            "Circle β", "OnCircle(b, β)"] ∧
        Program.ofText? diagram.program.text = some diagram.program) ∧
      Program.text ⟨[.declare .line ""]⟩ ≠ Program.text ⟨[.fact (.onLine "" "")]⟩ := by
  have read : ReadFromText sketched := by
    simp only [ReadFromText, sketched, List.forall_mem_cons]
    exact ⟨⟨"OnLine (mid a' b) L", rfl⟩, ⟨"Eq a' b", rfl⟩, ⟨"(OnCircle) b β", rfl⟩, by simp⟩
  obtain ⟨⟨result, succeeds, described⟩, determined⟩ := synthesize_plain_readable sketched read
  have lines : (synthesize Term.plain sketched).toOption.join.map (·.program.lines) =
      some [.autoLabel, .declare .point "mid_a'_b", .declare .line "L",
        .fact (.onLine "mid_a'_b" "L"), .declare .point "b", .declare .circle "β",
        .fact (.onCircle "b" "β")] := by
    decide
  rw [succeeds] at lines
  refine ⟨read, ?_, ?_⟩
  · cases result with
    | none => cases lines
    | some diagram =>
      obtain ⟨_, divided, _, back⟩ := described diagram rfl
      have same : diagram.program.lines = _ := Option.some.inj lines
      refine ⟨diagram, succeeds, ?_, back⟩
      rw [divided, same]
      decide
  · intro same
    have equal := determined _ _ (by decide) (by decide) same
    exact absurd equal (by decide)

end PlaneFigure
