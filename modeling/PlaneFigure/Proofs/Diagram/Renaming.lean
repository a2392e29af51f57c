import Mathlib.Data.Set.Function
import PlaneFigure.Proofs.Diagram.Failure
import PlaneFigure.Proofs.Diagram.ReadHypotheses

/-!
# Other keys for the same operands

Keys are compared with each other and copied into lines and objects, and nothing else happens to
them. So a display matters only in so far as it tells operands apart. If two displays show the
same operands alike, replacing the keys of the one by those of the other turns the diagram of the
one into the diagram of the other, line for line and object for object.

The two runs go through different registries. What ties them together is that the second diagram
is the first one with its keys replaced. Looking up a replaced key then finds the replaced object,
because the replacement does not confuse the keys that occur; hence the two runs find the same
operands new. A replacement that confuses two keys would merge objects, and this is the only place
at which it matters that it does not.
-/

namespace PlaneFigure

open Term (Printer)

/-- The keys that a display shows for some terms. -/
def keysShown (printer : Printer) (operands : List Term) : Set String :=
  {key | ∃ operand ∈ operands, printer operand = .ok key}

/-- Two displays tell the same terms apart. -/
def TellApartAlike (printer other : Printer) (operands : List Term) : Prop :=
  ∀ first ∈ operands, ∀ second ∈ operands,
    printer first = printer second ↔ other first = other second

instance (printer other : Printer) (operands : List Term) :
    Decidable (TellApartAlike printer other operands) :=
  inferInstanceAs (Decidable (∀ first ∈ operands, ∀ second ∈ operands,
    printer first = printer second ↔ other first = other second))

/-- A line with its keys replaced. -/
def Line.rename (change : String → String) : Line → Line
  | autoLabel => autoLabel
  | declare kind key => declare kind (change key)
  | fact stated => fact (stated.map change)

/-- An object with its key replaced. -/
def Entity.rename (change : String → String) (entity : Entity) : Entity :=
  { entity with key := change entity.key }

/-- A diagram is another one with its keys replaced. -/
structure Diagram.Renames (change : String → String) (diagram renamed : Diagram) : Prop where
  lines : renamed.program.lines = diagram.program.lines.map (Line.rename change)
  entities : renamed.registry.entities = diagram.registry.entities.map (Entity.rename change)

/-- An operand with its key replaced. -/
def renameOperand (change : String → String) (operand : String × Term) : String × Term :=
  (change operand.1, operand.2)

namespace Diagram.Renames

variable {change : String → String} {diagram renamed : Diagram}

/-- The keys of a diagram are replaced one by one. -/
theorem keys (renames : Renames change diagram renamed) :
    renamed.registry.keys = diagram.registry.keys.map change := by
  simp [Registry.keys, renames.entities, Entity.rename]

/-- Replacing keys makes no objects. -/
theorem size (renames : Renames change diagram renamed) :
    renamed.registry.size = diagram.registry.size := by
  simp [Registry.size, renames.entities]

/-- Replacing keys makes no facts. -/
theorem factCount (renames : Renames change diagram renamed) :
    renamed.program.factCount = diagram.program.factCount := by
  simp only [Program.factCount, renames.lines, List.countP_map]
  apply List.countP_congr
  intro line _
  cases line <;> simp [Line.rename, Line.isFact]

/-- A diagram without objects and with the header alone has no keys to be replaced. -/
theorem blank : Renames change .blank .blank := ⟨rfl, rfl⟩

section

variable {keys : Set String} (injective : Set.InjOn change keys)

include injective

/-- A replaced key is registered among the replaced keys exactly if the key was. -/
theorem mem_keys_iff (renames : Renames change diagram renamed)
    (registered : ∀ key ∈ diagram.registry.keys, key ∈ keys) (key : String) (occurs : key ∈ keys) :
    change key ∈ renamed.registry.keys ↔ key ∈ diagram.registry.keys := by
  rw [renames.keys, List.mem_map]
  constructor
  · rintro ⟨known, member, same⟩
    exact injective (registered known member) occurs same ▸ member
  · intro member
    exact ⟨key, member, rfl⟩

/-- Introducing an operand under another key introduces it and replaces the key: both runs find
the operand new, or neither does. -/
theorem introduce (renames : Renames change diagram renamed)
    (registered : ∀ key ∈ diagram.registry.keys, key ∈ keys) (kind : Kind) (key : String)
    (backing : Term) (occurs : key ∈ keys) :
    Renames change (diagram.introduce kind key backing)
      (renamed.introduce kind (change key) backing) where
  lines := by
    rw [introduce_lines, introduce_lines, renames.lines, List.map_append]
    by_cases known : key ∈ diagram.registry.keys
    · simp [known, (renames.mem_keys_iff injective registered key occurs).mpr known]
    · simp [known, mt (renames.mem_keys_iff injective registered key occurs).mp known, Line.rename]
  entities := by
    rw [introduce_entities, introduce_entities, renames.entities, renames.size, List.map_append]
    by_cases known : key ∈ diagram.registry.keys
    · simp [known, (renames.mem_keys_iff injective registered key occurs).mpr known]
    · simp [known, mt (renames.mem_keys_iff injective registered key occurs).mp known,
        Entity.rename]

/-- Operands under other keys are introduced like the operands, with the keys replaced. -/
theorem introduceAll (operands : List (Kind × String × Term))
    (renames : Renames change diagram renamed)
    (registered : ∀ key ∈ diagram.registry.keys, key ∈ keys)
    (occur : ∀ operand ∈ operands, operand.2.1 ∈ keys) :
    Renames change (diagram.introduceAll operands)
      (renamed.introduceAll
        (operands.map fun operand => (operand.1, renameOperand change operand.2))) := by
  induction operands generalizing diagram renamed with
  | nil => exact renames
  | cons operand rest inductionHypothesis =>
    obtain ⟨kind, key, backing⟩ := operand
    obtain ⟨occurs, later⟩ := List.forall_mem_cons.mp occur
    have remain : ∀ other ∈ (diagram.introduce kind key backing).registry.keys, other ∈ keys := by
      intro other member
      rcases List.mem_append.mp
        ((diagram.mem_keys_introduceAll [(kind, key, backing)] other).mp member) with old | new
      · exact registered other old
      · obtain rfl : other = key := List.mem_singleton.mp new
        exact occurs
    exact inductionHypothesis (renames.introduce injective registered kind key backing occurs)
      remain later

/-- A fact with other keys is drawn like the fact, with the keys replaced. -/
theorem draw (renames : Renames change diagram renamed)
    (registered : ∀ key ∈ diagram.registry.keys, key ∈ keys) (fact : Fact (String × Term))
    (occur : ∀ operand ∈ fact.operands, operand.1 ∈ keys) :
    Renames change (diagram.draw fact) (renamed.draw (fact.map (renameOperand change))) := by
  have typed : ∀ operand ∈ fact.typedOperands, operand.2.1 ∈ keys :=
    fun operand member => occur operand.2 (fact.mem_operands_of_typed operand member)
  have introduced := renames.introduceAll injective fact.typedOperands registered typed
  have states :
      (fact.map (renameOperand change)).map Prod.fst = (fact.map Prod.fst).map change := by
    rw [Fact.map_map, Fact.map_map]
    rfl
  rw [draw_eq, draw_eq, Fact.typedOperands_map, states]
  exact ⟨by simp [Program.state, introduced.lines, Line.rename], introduced.entities⟩

/-- Facts with other keys are drawn like the facts, with the keys replaced. The induction follows
the facts; the diagram in the making of the one run is always that of the other run with its keys
replaced, and has no keys but those that occur. -/
theorem foldl_draw (facts : List (Fact (String × Term)))
    (renames : Renames change diagram renamed)
    (registered : ∀ key ∈ diagram.registry.keys, key ∈ keys)
    (occur : ∀ fact ∈ facts, ∀ operand ∈ fact.operands, operand.1 ∈ keys) :
    Renames change (facts.foldl Diagram.draw diagram)
      ((facts.map (Fact.map (renameOperand change))).foldl Diagram.draw renamed) := by
  induction facts generalizing diagram renamed with
  | nil => exact renames
  | cons fact rest inductionHypothesis =>
    obtain ⟨own, later⟩ := List.forall_mem_cons.mp occur
    have remain : ∀ key ∈ (diagram.draw fact).registry.keys, key ∈ keys := by
      intro key member
      rcases List.mem_append.mp
        ((diagram.mem_keys_introduceAll fact.typedOperands key).mp member) with old | new
      · exact registered key old
      · obtain ⟨operand, among, rfl⟩ := List.mem_map.mp new
        exact own operand.2 (fact.mem_operands_of_typed operand among)
    exact inductionHypothesis (renames.draw injective registered fact own) remain later

end

end Diagram.Renames

/-- An operand of a stated fact is an operand of the hypotheses. -/
theorem mem_operandsOf (hypotheses : List Hypothesis) (fact : Fact Term)
    (states : fact ∈ stated hypotheses) (operand : Term) (member : operand ∈ fact.operands) :
    operand ∈ operandsOf hypotheses := by
  rw [operandsOf_eq]
  exact List.mem_flatMap.mpr ⟨fact, states, member⟩

/-- If every operand of every stated fact is displayed, it is displayed as its key. -/
theorem displays_operandsOf (printer : Printer) (hypotheses : List Hypothesis)
    (displays : Displays printer (stated hypotheses)) :
    ∀ operand ∈ operandsOf hypotheses, printer operand = .ok (keyOf printer operand) := by
  intro operand member
  rw [operandsOf_eq] at member
  obtain ⟨fact, states, among⟩ := List.mem_flatMap.mp member
  exact printer_eq_keyOf printer operand (displays fact states operand among)

/-- The replacement of what one display shows for some terms by what another one shows for them.
Other texts stay. -/
def keyChange (printer other : Printer) (operands : List Term) (key : String) : String :=
  match operands.find? fun operand => keyOf printer operand = key with
  | some operand => keyOf other operand
  | none => key

section KeyChange

variable (printer other : Printer) (operands : List Term)
  (shows : ∀ operand ∈ operands, printer operand = .ok (keyOf printer operand))
  (otherShows : ∀ operand ∈ operands, other operand = .ok (keyOf other operand))
  (alike : TellApartAlike printer other operands)

include shows otherShows alike

/-- Displays that tell the same terms apart have the same keys equal. -/
theorem keyOf_eq_iff (first second : Term) (isFirst : first ∈ operands)
    (isSecond : second ∈ operands) :
    keyOf printer first = keyOf printer second ↔ keyOf other first = keyOf other second := by
  simpa only [shows first isFirst, shows second isSecond, otherShows first isFirst,
    otherShows second isSecond, Except.ok.injEq] using alike first isFirst second isSecond

/-- The key that the one display shows for a term is replaced by the key that the other shows for
it. It does not matter which of several terms with the key is looked at. -/
theorem keyChange_keyOf (operand : Term) (member : operand ∈ operands) :
    keyChange printer other operands (keyOf printer operand) = keyOf other operand := by
  unfold keyChange
  cases found : operands.find? fun candidate => keyOf printer candidate = keyOf printer operand with
  | none => simpa using List.find?_eq_none.mp found operand member
  | some first =>
    have same : keyOf printer first = keyOf printer operand := by
      simpa using List.find?_some found
    exact (keyOf_eq_iff printer other operands shows otherShows alike first operand
      (List.mem_of_find?_eq_some found) member).mp same

/-- The replacement is a bijection between the keys that the two displays show. -/
theorem bijOn_keyChange :
    Set.BijOn (keyChange printer other operands) (keysShown printer operands)
      (keysShown other operands) := by
  have changes := keyChange_keyOf printer other operands shows otherShows alike
  refine ⟨?_, ?_, ?_⟩
  · rintro _ ⟨operand, member, shown⟩
    obtain rfl := Except.ok.inj ((shows operand member).symm.trans shown)
    exact ⟨operand, member, by rw [changes operand member, otherShows operand member]⟩
  · rintro _ ⟨first, isFirst, shown⟩ _ ⟨second, isSecond, alsoShown⟩ same
    obtain rfl := Except.ok.inj ((shows first isFirst).symm.trans shown)
    obtain rfl := Except.ok.inj ((shows second isSecond).symm.trans alsoShown)
    rw [changes first isFirst, changes second isSecond] at same
    exact (keyOf_eq_iff printer other operands shows otherShows alike first second isFirst
      isSecond).mpr same
  · rintro _ ⟨operand, member, shown⟩
    obtain rfl := Except.ok.inj ((otherShows operand member).symm.trans shown)
    exact ⟨keyOf printer operand, ⟨operand, member, shows operand member⟩, changes operand member⟩

end KeyChange

/-- A fact with the keys of another display is the fact with its keys replaced. -/
theorem withKeys_rename (printer other : Printer) (change : String → String) (fact : Fact Term)
    (changes : ∀ operand ∈ fact.operands, change (keyOf printer operand) = keyOf other operand) :
    withKeys other fact = (withKeys printer fact).map (renameOperand change) := by
  rw [withKeys, withKeys, Fact.map_map]
  apply Fact.map_congr
  intro operand member
  rw [renameOperand, changes operand member]

/-- The diagram that is drawn with the keys of another display is the diagram with its keys
replaced, if the replacement confuses no keys. -/
theorem drawn_rename (printer other : Printer) (change : String → String)
    (hypotheses : List Hypothesis)
    (changes : ∀ operand ∈ operandsOf hypotheses,
      change (keyOf printer operand) = keyOf other operand)
    (keys : Set String) (injective : Set.InjOn change keys)
    (occur : ∀ operand ∈ operandsOf hypotheses, keyOf printer operand ∈ keys) :
    (drawn printer hypotheses).Renames change (drawn other hypotheses) := by
  have facts : (stated hypotheses).map (withKeys other) =
      ((stated hypotheses).map (withKeys printer)).map (Fact.map (renameOperand change)) := by
    rw [List.map_map]
    apply List.map_congr_left
    intro fact states
    exact withKeys_rename printer other change fact fun operand member =>
      changes operand (mem_operandsOf hypotheses fact states operand member)
  rw [drawn, drawn, facts]
  apply Diagram.Renames.foldl_draw injective _ .blank
  · exact List.forall_mem_nil _
  · intro shown member operand among
    obtain ⟨fact, states, rfl⟩ := List.mem_map.mp member
    rw [withKeys, Fact.operands_map] at among
    obtain ⟨term, occurs, rfl⟩ := List.mem_map.mp among
    exact occur term (mem_operandsOf hypotheses fact states term occurs)

/-- The keys of a drawn program are keys that the display shows for operands. -/
theorem keys_drawn (printer : Printer) (hypotheses : List Hypothesis)
    (displays : Displays printer (stated hypotheses)) :
    ∀ key ∈ (drawn printer hypotheses).program.keys,
      key ∈ keysShown printer (operandsOf hypotheses) := by
  intro key found
  obtain ⟨line, member, among⟩ := List.mem_flatMap.mp found
  rw [drawn_lines, List.mem_cons] at member
  rcases member with rfl | contributed
  · cases among
  · obtain ⟨fact, given, occurs⟩ := keys_factLines [] _ line contributed key among
    obtain ⟨original, states, rfl⟩ := List.mem_map.mp given
    rw [Fact.operands_map] at occurs
    obtain ⟨operand, position, rfl⟩ := List.mem_map.mp occurs
    exact ⟨operand, mem_operandsOf hypotheses original states operand position,
      printer_eq_keyOf printer operand (displays original states operand position)⟩

/-- Two displays under which synthesis does not fail, and which show the same operands alike,
determine each other's diagrams. The key that one shows for an operand corresponds to the key
that the other shows for it, and this is a bijection between the keys of the one and those of the
other. Either both yield no diagram, or both yield one, and replacing each key by the one that
corresponds to it turns the lines of the one program into those of the other, and the objects of
the one registry into those of the other: each line stays a line of its kind at its place, and
each object keeps its kind, its term and its number. -/
theorem synthesize_rename (printer other : Printer) (hypotheses : List Hypothesis)
    (displays : Displays printer (stated hypotheses))
    (otherDisplays : Displays other (stated hypotheses))
    (alike : TellApartAlike printer other (operandsOf hypotheses)) :
    ∃ change : String → String,
      (∀ operand ∈ operandsOf hypotheses, other operand = change <$> printer operand) ∧
      Set.BijOn change (keysShown printer (operandsOf hypotheses))
        (keysShown other (operandsOf hypotheses)) ∧
      (synthesize printer hypotheses = .ok none ∧ synthesize other hypotheses = .ok none ∨
        ∃ left right, synthesize printer hypotheses = .ok (some left) ∧
          synthesize other hypotheses = .ok (some right) ∧
          (∀ key ∈ left.program.keys, key ∈ keysShown printer (operandsOf hypotheses)) ∧
          right.program.lines = left.program.lines.map (Line.rename change) ∧
          right.registry.entities = left.registry.entities.map fun entity =>
            { entity with key := change entity.key }) := by
  have shows := displays_operandsOf printer hypotheses displays
  have otherShows := displays_operandsOf other hypotheses otherDisplays
  have changes := keyChange_keyOf printer other _ shows otherShows alike
  have bijective := bijOn_keyChange printer other _ shows otherShows alike
  have renamed : (drawn printer hypotheses).Renames
      (keyChange printer other (operandsOf hypotheses)) (drawn other hypotheses) :=
    drawn_rename printer other _ hypotheses changes (keysShown printer _) bijective.injOn
      fun operand member => ⟨operand, member, shows operand member⟩
  refine ⟨_, ?_, bijective, ?_⟩
  · intro operand member
    rw [otherShows operand member, shows operand member, ← changes operand member]
    rfl
  · have facts : (drawn other hypotheses).program.factCount =
        (drawn printer hypotheses).program.factCount := renamed.factCount
    rw [synthesize_eq_drawn printer hypotheses displays,
      synthesize_eq_drawn other hypotheses otherDisplays, facts]
    by_cases vacant : (drawn printer hypotheses).program.factCount = 0
    · exact .inl (by simp [vacant])
    · refine .inr ⟨drawn printer hypotheses, drawn other hypotheses, by rw [if_neg vacant],
        by rw [if_neg vacant], keys_drawn printer hypotheses displays, ?_, ?_⟩
      · exact renamed.lines
      · exact renamed.entities

/-- Hypotheses in which two operands are displayed alike without being equal, and one operand
stands at positions of two kinds. -/
def shared : List Hypothesis :=
  [⟨⟨"h1"⟩, "h1", .apply "OnLine" [.apply "f" [.apply "g" [.var "a"]], .var "L"]⟩,
    ⟨⟨"h2"⟩, "h2", .apply "Eq" [.var "a", .var "b"]⟩,
    ⟨⟨"h3"⟩, "h3", .apply "OnCircle" [.var "L", .apply "f" [.var "g", .var "a"]]⟩]

/-- With a mark behind every key, the operands that were one object still are. -/
theorem synthesize_rename_shared :
    Displays Term.plain (stated shared) ∧ Displays (Term.marked "'") (stated shared) ∧
    TellApartAlike Term.plain (Term.marked "'") (operandsOf shared) ∧
    ∃ left right, synthesize Term.plain shared = .ok (some left) ∧
      synthesize (Term.marked "'") shared = .ok (some right) ∧
      left.program.lines =
        [.autoLabel, .declare .point "f_g_a", .declare .line "L", .fact (.onLine "f_g_a" "L"),
          .fact (.onCircle "L" "f_g_a")] ∧
      right.program.lines =
        [.autoLabel, .declare .point "f_g_a'", .declare .line "L'", .fact (.onLine "f_g_a'" "L'"),
          .fact (.onCircle "L'" "f_g_a'")] ∧
      right.registry.entities =
        [⟨.point, "f_g_a'", .apply "f" [.apply "g" [.var "a"]], 0⟩,
          ⟨.line, "L'", .var "L", 1⟩] := by
  have displays : Displays Term.plain (stated shared) := by decide
  have marks : Displays (Term.marked "'") (stated shared) := by decide
  have alike : TellApartAlike Term.plain (Term.marked "'") (operandsOf shared) := by decide
  have succeeds := synthesize_eq_some_drawn Term.plain shared displays (by decide)
  obtain ⟨change, values, _, result⟩ :=
    synthesize_rename Term.plain (Term.marked "'") shared displays marks alike
  have compound : "f_g_a'" = change "f_g_a" :=
    Except.ok.inj (values (.apply "f" [.var "g", .var "a"]) (by decide))
  have simple : "L'" = change "L" := Except.ok.inj (values (.var "L") (by decide))
  rcases result with ⟨nothing, _⟩ | ⟨left, right, draws, alsoDraws, _, lines, entities⟩
  · cases succeeds.symm.trans nothing
  · obtain rfl := Option.some.inj (Except.ok.inj (succeeds.symm.trans draws))
    have drawnLines : (drawn Term.plain shared).program.lines =
        [.autoLabel, .declare .point "f_g_a", .declare .line "L", .fact (.onLine "f_g_a" "L"),
          .fact (.onCircle "L" "f_g_a")] := by
      decide
    have drawnEntities : (drawn Term.plain shared).registry.entities =
        [⟨.point, "f_g_a", .apply "f" [.apply "g" [.var "a"]], 0⟩, ⟨.line, "L", .var "L", 1⟩] := by
      decide
    refine ⟨displays, marks, alike, _, right, succeeds, alsoDraws, drawnLines, ?_, ?_⟩
    · rw [lines, drawnLines, compound, simple]
      rfl
    · rw [entities, drawnEntities, compound, simple]
      rfl

end PlaneFigure
